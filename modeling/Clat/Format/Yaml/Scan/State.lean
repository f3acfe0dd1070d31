import Clat.Format.Yaml.Stop
import Clat.Format.Yaml.Token

/-! State of the scanner. Tokens are numbered as they come. A token that may turn out to be
a key is pending: when its colon comes, the token for the key goes in front of it. -/
namespace Clat.Format.Yaml

/-- A token that may turn out to be a key, by its number and place. -/
structure PendingKey where
  number : Nat
  required : Bool
  place : Mark

structure Scanner where
  mark : Mark
  depth : Nat := 0
  /-- Indentation of the block, and of the blocks around it. -/
  indent : Int := -1
  outer : List Int := []
  keyAllowed : Bool := true
  /-- Pending keys with the depth they stand at, deepest first. -/
  pending : List (Nat × PendingKey) := []
  tokens : Array Token := #[]
  finished : Bool := false

namespace Scanner

def push (s : Scanner) (token : Token) : Scanner := { s with tokens := s.tokens.push token }

def pushHere (s : Scanner) (kind : Token.Kind) : Scanner := s.push ⟨kind, s.mark, s.mark⟩

/-- Adds a token of some characters, and passes them. -/
def pushMark (s : Scanner) (kind : Token.Kind) (size : Nat) : Scanner :=
  let stop := s.mark.advance size
  { s.push ⟨kind, s.mark, stop⟩ with mark := stop }

/-- Puts a token in front of the token with a number. -/
def insert (s : Scanner) (number : Nat) (token : Token) : Scanner :=
  { s with tokens := s.tokens.insertIdxIfInBounds number token }

/-- The pending key of the brackets that are open. -/
def current? (s : Scanner) : Option PendingKey :=
  (s.pending.find? (·.1 = s.depth)).map (·.2)

/-- Drops the pending key of the brackets that are open. -/
def forget (s : Scanner) : Scanner := { s with pending := s.pending.filter (·.1 ≠ s.depth) }

/-- Gives up the pending key of the brackets that are open. -/
def giveUp (s : Scanner) : Except Stop Scanner :=
  if s.current?.any (·.required) then .error .refused else .ok s.forget

def keyReach : Nat := 1024

/-- Whether a key can no longer have its colon: it has to stand in one line and not too far
away. -/
def isStale (mark : Mark) (key : PendingKey) : Bool :=
  key.place.line != mark.line || keyReach < mark.index - key.place.index

def dropStale (s : Scanner) : Except Stop Scanner :=
  if s.pending.any fun (_, key) => isStale s.mark key && key.required then .error .refused
  else .ok { s with pending := s.pending.filter fun (_, key) => !isStale s.mark key }

/-- Makes the next token a pending key, if a key may start here. -/
def offerKey (s : Scanner) : Except Stop Scanner :=
  let required := s.depth = 0 && s.indent = s.mark.column
  if s.keyAllowed then do
    let s ← s.giveUp
    return { s with pending := (s.depth, ⟨s.tokens.size, required, s.mark⟩) :: s.pending }
  else .ok s

/-- Opens a block at a column deeper than the block around. -/
def openBlock (s : Scanner) (column : Nat) : Option Scanner :=
  if s.indent < column then some { s with outer := s.indent :: s.outer, indent := column }
  else none

/-- Closes the blocks that are indented beyond a column; `fuel` is how many are open. -/
def closeBlocksFrom : Nat → Int → Scanner → Scanner
  | 0, _, s => s
  | fuel + 1, column, s =>
    if column < s.indent then
      match s.outer with
      | [] => s
      | indent :: outer =>
        closeBlocksFrom fuel column { s.pushHere .blockEnd with indent, outer }
    else s

/-- Closes the blocks that are indented beyond a column. Brackets keep blocks open. -/
def closeBlocks (s : Scanner) (column : Int) : Scanner :=
  if s.depth = 0 then closeBlocksFrom s.outer.length column s else s

/-- How many tokens are settled: those before the first pending one. -/
def settled (s : Scanner) : Nat :=
  s.pending.foldl (fun n (_, key) => min n key.number) s.tokens.size

end Scanner
end Clat.Format.Yaml
