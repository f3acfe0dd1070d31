import Clat.Format.Yaml.Scan.Block
import Clat.Format.Yaml.Scan.Directive
import Clat.Format.Yaml.Scan.Plain
import Clat.Format.Yaml.Scan.Quoted
import Clat.Format.Yaml.Scan.State

/-! Scanning a text into tokens. -/
namespace Clat.Format.Yaml
namespace Scanner

/-- Passes spaces, comments and line ends. Outside brackets a key may start on a new line.
`fuel` bounds the lines. -/
def skipBetween : Nat → Scanner → Scanner
  | 0, s => s
  | fuel + 1, s =>
    let mark := skipComment s.mark
    match lineBreak mark with
    | ([], _) => { s with mark }
    | (_, mark) => skipBetween fuel { s with mark, keyAllowed := s.keyAllowed || s.depth = 0 }

/-- Passes what stands between tokens, and a byte order mark at the start. -/
def toNextToken (s : Scanner) : Scanner :=
  let mark := if s.mark.index = 0 && s.mark.peek = some '\ufeff' then s.mark.step else s.mark
  skipBetween (mark.ahead.length + 1) { s with mark }

def fetchEnd (s : Scanner) : Except Stop Scanner := do
  let s ← (s.closeBlocks (-1)).giveUp
  return { s.pushHere .streamEnd with keyAllowed := false, pending := [], finished := true }

def fetchDirective (s : Scanner) : Except Stop Scanner := do
  let s ← (s.closeBlocks (-1)).giveUp
  let (token, mark) ← scanDirective s.mark
  return { s.push token with mark, keyAllowed := false }

def fetchSeparator (s : Scanner) (kind : Token.Kind) : Except Stop Scanner := do
  let s ← (s.closeBlocks (-1)).giveUp
  return { s.pushMark kind 3 with keyAllowed := false }

def fetchOpen (s : Scanner) (kind : Token.Kind) : Except Stop Scanner := do
  let s ← s.offerKey
  return { s.pushMark kind 1 with depth := s.depth + 1, keyAllowed := true }

def fetchClose (s : Scanner) (kind : Token.Kind) : Except Stop Scanner :=
  if s.depth = 0 then .error .refused
  else do
    let s ← s.giveUp
    return { s.pushMark kind 1 with depth := s.depth - 1, keyAllowed := false }

def fetchFlowEntry (s : Scanner) : Except Stop Scanner := do
  let s ← s.giveUp
  return { s.pushMark .flowEntry 1 with keyAllowed := true }

/-- Opens a block here for an indicator, outside brackets and where a key may start. -/
def startBlock (s : Scanner) (kind : Token.Kind) : Except Stop Scanner :=
  if s.depth ≠ 0 then .ok s
  else if !s.keyAllowed then .error .refused
  else
    match s.openBlock s.mark.column with
    | some opened => .ok (opened.pushHere kind)
    | none => .ok s

def fetchBlockEntry (s : Scanner) : Except Stop Scanner := do
  let s ← s.startBlock .blockSequenceStart
  let s ← s.giveUp
  return { s.pushMark .blockEntry 1 with keyAllowed := true }

def fetchKey (s : Scanner) : Except Stop Scanner := do
  let s ← s.startBlock .blockMappingStart
  let s ← s.giveUp
  return { s.pushMark .key 1 with keyAllowed := s.depth = 0 }

/-- Reads a colon. A pending key becomes a key now, and may open a block. -/
def fetchValue (s : Scanner) : Except Stop Scanner := do
  match s.current? with
  | some key =>
    let s := s.forget.insert key.number ⟨.key, key.place, key.place⟩
    let s :=
      if s.depth ≠ 0 then s
      else
        match s.openBlock key.place.column with
        | some opened => opened.insert key.number ⟨.blockMappingStart, key.place, key.place⟩
        | none => s
    return { s.pushMark .value 1 with keyAllowed := false }
  | none =>
    let s ← s.startBlock .blockMappingStart
    let s ← s.giveUp
    return { s.pushMark .value 1 with keyAllowed := s.depth = 0 }

def fetchContent (s : Scanner) (scan : Mark → Except Stop Token) : Except Stop Scanner := do
  let s ← s.offerKey
  let token ← scan s.mark
  return { s.push token with mark := token.stop, keyAllowed := false }

def fetchBlockScalar (s : Scanner) (folded : Bool) : Except Stop Scanner := do
  let s ← s.giveUp
  let token ← scanBlockScalar folded s.indent s.mark
  return { s.push token with mark := token.stop, keyAllowed := true }

def fetchPlain (s : Scanner) : Except Stop Scanner := do
  let s ← s.offerKey
  let (token, mark, feeds) := scanPlain (s.depth ≠ 0) s.indent s.mark
  return { s.push token with mark, keyAllowed := feeds }

def isIndicator (c : Char) : Bool := "-?:,[]\x7b\x7d#&*!|>'\"%@\x60".toList.contains c

def startsPlain (s : Scanner) (c : Char) : Bool :=
  !(c = ' ' || c = '\t' || isBreak c || isIndicator c)
    || (!endsToken (s.mark.peekAt 1) && (c = '-' || (s.depth = 0 && (c = '?' || c = ':'))))

def fetchAt (s : Scanner) (c : Char) : Except Stop Scanner :=
  let spaced := endsToken (s.mark.peekAt 1)
  if c = '%' && s.mark.column = 0 then s.fetchDirective
  else if s.mark.column = 0 && atSeparator s.mark then
    s.fetchSeparator (if c = '-' then .documentStart else .documentEnd)
  else if c = '[' then s.fetchOpen .flowSequenceStart
  else if c = '\x7b' then s.fetchOpen .flowMappingStart
  else if c = ']' then s.fetchClose .flowSequenceEnd
  else if c = '\x7d' then s.fetchClose .flowMappingEnd
  else if c = ',' then s.fetchFlowEntry
  else if c = '-' && spaced then s.fetchBlockEntry
  else if c = '?' && (s.depth ≠ 0 || spaced) then s.fetchKey
  else if c = ':' && (s.depth ≠ 0 || spaced) then s.fetchValue
  else if c = '*' then s.fetchContent (scanAnchor .alias)
  else if c = '&' then s.fetchContent (scanAnchor .anchor)
  else if c = '!' then s.fetchContent scanTag
  else if c = '|' && s.depth = 0 then s.fetchBlockScalar false
  else if c = '>' && s.depth = 0 then s.fetchBlockScalar true
  else if c = '\'' || c = '"' then s.fetchContent (scanQuoted c)
  else if s.startsPlain c then s.fetchPlain
  else .error .refused

def fetch (s : Scanner) : Except Stop Scanner := do
  let s ← s.toNextToken.dropStale
  let s := s.closeBlocks s.mark.column
  match s.mark.peek with
  | none => s.fetchEnd
  | some c => s.fetchAt c

end Scanner

/-- The tokens of a text. If scanning stops, only those settled before it are there, and why
it stopped. -/
structure TokenStream where
  tokens : List Token
  halt : Option Stop

def scanFrom : Nat → Scanner → TokenStream
  | 0, s => ⟨s.tokens.toList, some .refused⟩
  | fuel + 1, s =>
    match s.dropStale with
    | .error stop => ⟨s.tokens.toList.take s.settled, some stop⟩
    | .ok s =>
      match s.fetch with
      | .error stop => ⟨s.tokens.toList.take s.settled, some stop⟩
      | .ok s => if s.finished then ⟨s.tokens.toList, none⟩ else scanFrom fuel s

/-- The tokens of a text. Every token but the last takes a character. -/
def scan (text : List Char) : TokenStream :=
  if text.all isAllowed then scanFrom (text.length + 2) { mark := .ofText text }
  else ⟨[], some .refused⟩

end Clat.Format.Yaml
