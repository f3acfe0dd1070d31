import Clat.Format.Yaml.Node
import Clat.Format.Yaml.Scan.Fetch

/-! Composing tokens into the nodes of one document. -/
namespace Clat.Format.Yaml

/-- Where composing stands: the tokens ahead, the nodes made, the anchors set and the tag
handles declared. -/
structure Composer where
  tokens : List Token
  nodes : Array Node := #[]
  anchors : List (String × Nat) := []
  handles : List (String × String) := []

/-- A step of composing. It stops where the tokens run out. -/
abbrev Compose := StateT Composer (Except (Option Stop))

namespace Compose

def refuse {α : Type} : Compose α := throw (some .refused)

def peek : Compose Token := do
  match (← get).tokens with
  | [] => throw none
  | token :: _ => return token

def take : Compose Token := do
  let token ← peek
  modify fun c => { c with tokens := c.tokens.tail }
  return token

def ahead (test : Token.Kind → Bool) : Compose Bool := return test (← peek).kind

end Compose

namespace Token.Kind

def isKey : Token.Kind → Bool
  | .key => true
  | _ => false

def isValue : Token.Kind → Bool
  | .value => true
  | _ => false

def isBlockEnd : Token.Kind → Bool
  | .blockEnd => true
  | _ => false

def isBlockEntry : Token.Kind → Bool
  | .blockEntry => true
  | _ => false

def isFlowEntry : Token.Kind → Bool
  | .flowEntry => true
  | _ => false

/-- Whether the token closes a sequence in brackets. -/
def isFlowSequenceEnd : Token.Kind → Bool
  | .flowSequenceEnd => true
  | _ => false

/-- Whether the token closes a mapping in brackets. -/
def isFlowMappingEnd : Token.Kind → Bool
  | .flowMappingEnd => true
  | _ => false

def isStreamEnd : Token.Kind → Bool
  | .streamEnd => true
  | _ => false

def isDocumentStart : Token.Kind → Bool
  | .documentStart => true
  | _ => false

def isDocumentEnd : Token.Kind → Bool
  | .documentEnd => true
  | _ => false

def isDirective : Token.Kind → Bool
  | .directive _ => true
  | _ => false

/-- Whether the token comes after a key or value that is left out in a block. -/
def leavesOutInBlock (kind : Token.Kind) : Bool := kind.isKey || kind.isValue || kind.isBlockEnd

end Token.Kind

namespace Compose

def fullTag (handle : Option String) (suffix : String) : Compose String := do
  match handle with
  | none => return suffix
  | some handle =>
    match (← get).handles.lookup handle with
    | some stem => return stem ++ suffix
    | none => refuse

/-- What stands in front of the content of a node. -/
structure Properties where
  anchor : Option String := none
  tag : Option String := none
  start : Option Mark := none

def properties : Compose Properties := do
  let first ← peek
  match first.kind with
  | .anchor name =>
    let _ ← take
    match (← peek).kind with
    | .tag handle suffix =>
      let _ ← take
      return ⟨some name, some (← fullTag handle suffix), some first.start⟩
    | _ => return ⟨some name, none, some first.start⟩
  | .tag handle suffix =>
    let _ ← take
    match (← peek).kind with
    | .anchor name =>
      let _ ← take
      return ⟨some name, some (← fullTag handle suffix), some first.start⟩
    | _ => return ⟨none, some (← fullTag handle suffix), some first.start⟩
  | _ => return {}

def checkAnchor (anchor : Option String) : Compose Unit := do
  match anchor with
  | none => return ()
  | some name => if ((← get).anchors.lookup name).isSome then refuse

def addNode (anchor : Option String) (node : Node) : Compose Nat := do
  let number := (← get).nodes.size
  modify fun c => { c with
    nodes := c.nodes.push node
    anchors := match anchor with
      | none => c.anchors
      | some name => (name, number) :: c.anchors }
  return number

def fill (number : Nat) (content : Content) : Compose Unit :=
  modify fun c => { c with nodes := c.nodes.modify number fun node => { node with content } }

/-- The tag of a node, or the tag that stands for none. -/
def tagOr (tag : Option String) (default : String) : String :=
  match tag with
  | none => default
  | some tag => if tag = "!" then default else tag

/-- Adds a scalar. Only a plain one without tag, and one whose tag is `!`, has its type
chosen by its form. -/
def addScalar (props : Properties) (start : Mark) (text : String) (plain : Bool) : Compose Nat :=
  let default :=
    if plain || props.tag = some "!" then resolvePlain text.toList else coreTag "str"
  addNode props.anchor ⟨tagOr props.tag default, start, .scalar text⟩

/-- Adds the scalar that stands for a node left out. -/
def addEmpty (place : Mark) : Compose Nat := addScalar {} place "" true

mutual

/-- Composes a node. In a block, a node may be a block collection; as the value of a key, it
may also be dashes that are not indented. -/
def node (block indentless : Bool) : Nat → Compose Nat
  | 0 => refuse
  | fuel + 1 => do
    let first ← peek
    match first.kind with
    | .alias name =>
      let _ ← take
      match (← get).anchors.lookup name with
      | some number => return number
      | none => refuse
    | _ =>
      let props ← properties
      let token ← peek
      let start := props.start.getD token.start
      let listTag := tagOr props.tag (coreTag "seq")
      let mapTag := tagOr props.tag (coreTag "map")
      if indentless && token.kind.isBlockEntry then
        checkAnchor props.anchor
        let number ← addNode props.anchor ⟨listTag, start, .sequence []⟩
        fill number (.sequence (← dashes true fuel))
        return number
      else
        match token.kind with
        | .scalar text plain =>
          let _ ← take
          checkAnchor props.anchor
          addScalar props start text (plain && props.tag.isNone)
        | .flowSequenceStart =>
          checkAnchor props.anchor
          let _ ← take
          let number ← addNode props.anchor ⟨listTag, start, .sequence []⟩
          fill number (.sequence (← flowItems true fuel))
          return number
        | .flowMappingStart =>
          checkAnchor props.anchor
          let _ ← take
          let number ← addNode props.anchor ⟨mapTag, start, .mapping []⟩
          fill number (.mapping (← flowEntries true fuel))
          return number
        | .blockSequenceStart =>
          if block then
            checkAnchor props.anchor
            let _ ← take
            let number ← addNode props.anchor ⟨listTag, start, .sequence []⟩
            fill number (.sequence (← dashes false fuel))
            return number
          else leftOut props start
        | .blockMappingStart =>
          if block then
            checkAnchor props.anchor
            let _ ← take
            let number ← addNode props.anchor ⟨mapTag, start, .mapping []⟩
            fill number (.mapping (← blockEntries fuel))
            return number
          else leftOut props start
        | _ => leftOut props start

/-- Composes a node that has properties but no content. -/
def leftOut (props : Properties) (start : Mark) : Compose Nat := do
  if props.anchor.isNone && props.tag.isNone then refuse
  else
    checkAnchor props.anchor
    addScalar props start "" props.tag.isNone

/-- Composes the items after dashes, up to the end of the block; dashes that are not
indented end at any other token. -/
def dashes (indentless : Bool) : Nat → Compose (List Nat)
  | 0 => refuse
  | fuel + 1 => do
    let token ← peek
    if token.kind.isBlockEntry then
      let _ ← take
      let none ← ahead fun kind =>
        kind.isBlockEntry || kind.isBlockEnd || (indentless && (kind.isKey || kind.isValue))
      let item ← if none then addEmpty token.stop else node true false fuel
      return item :: (← dashes indentless fuel)
    else if indentless then return []
    else if token.kind.isBlockEnd then
      let _ ← take
      return []
    else refuse

/-- Composes the entries of a mapping in a block, up to its end. -/
def blockEntries : Nat → Compose (List (Nat × Nat))
  | 0 => refuse
  | fuel + 1 => do
    let token ← peek
    if token.kind.isKey then
      let _ ← take
      let key ←
        if ← ahead Token.Kind.leavesOutInBlock then addEmpty token.stop else node true true fuel
      let mark ← peek
      let value ←
        if mark.kind.isValue then do
          let _ ← take
          if ← ahead Token.Kind.leavesOutInBlock then addEmpty mark.stop else node true true fuel
        else addEmpty mark.start
      return (key, value) :: (← blockEntries fuel)
    else if token.kind.isBlockEnd then
      let _ ← take
      return []
    else refuse

/-- Composes the value after a key in brackets that `closes` ends. -/
def flowValue (closes : Token.Kind → Bool) : Nat → Compose Nat
  | 0 => refuse
  | fuel + 1 => do
    let mark ← peek
    if mark.kind.isValue then
      let _ ← take
      if ← ahead fun kind => kind.isFlowEntry || closes kind then addEmpty mark.stop
      else node false false fuel
    else addEmpty mark.start

/-- Composes an entry after a key indicator in brackets that `closes` ends. -/
def flowPair (closes : Token.Kind → Bool) : Nat → Compose (Nat × Nat)
  | 0 => refuse
  | fuel + 1 => do
    let mark ← take
    let key ←
      if ← ahead fun kind => kind.isValue || kind.isFlowEntry || closes kind then
        addEmpty mark.stop
      else node false false fuel
    return (key, ← flowValue closes fuel)

/-- Composes the items of a sequence in brackets. A key indicator makes an item that is a
mapping of one entry. -/
def flowItems (first : Bool) : Nat → Compose (List Nat)
  | 0 => refuse
  | fuel + 1 => do
    if ← ahead Token.Kind.isFlowSequenceEnd then
      let _ ← take
      return []
    else
      unless first do
        let comma ← peek
        if comma.kind.isFlowEntry then
          let _ ← take
        else refuse
      let token ← peek
      if token.kind.isKey then
        let item ← addNode none ⟨coreTag "map", token.start, .mapping []⟩
        let entry ← flowPair Token.Kind.isFlowSequenceEnd fuel
        fill item (.mapping [entry])
        return item :: (← flowItems false fuel)
      else if token.kind.isFlowSequenceEnd then
        let _ ← take
        return []
      else
        let item ← node false false fuel
        return item :: (← flowItems false fuel)

/-- Composes the entries of a mapping in brackets. -/
def flowEntries (first : Bool) : Nat → Compose (List (Nat × Nat))
  | 0 => refuse
  | fuel + 1 => do
    if ← ahead Token.Kind.isFlowMappingEnd then
      let _ ← take
      return []
    else
      unless first do
        let comma ← peek
        if comma.kind.isFlowEntry then
          let _ ← take
        else refuse
      let token ← peek
      if token.kind.isKey then
        let entry ← flowPair Token.Kind.isFlowMappingEnd fuel
        return entry :: (← flowEntries false fuel)
      else if token.kind.isFlowMappingEnd then
        let _ ← take
        return []
      else
        let key ← node false false fuel
        let value ← addEmpty (← peek).start
        return (key, value) :: (← flowEntries false fuel)

end

def defaultHandles : List (String × String) := [("!", "!"), ("!!", coreTag "")]

/-- Reads directives: one version of major number one at most, and one stem for a handle. -/
def directives (version : Bool) : Nat → Compose Unit
  | 0 => refuse
  | fuel + 1 => do
    match (← peek).kind with
    | .directive (.version major _) =>
      let _ ← take
      if version || major ≠ 1 then refuse else directives true fuel
    | .directive (.tag handle stem) =>
      let _ ← take
      if ((← get).handles.lookup handle).isSome then refuse
      else
        modify fun c => { c with handles := (handle, stem) :: c.handles }
        directives version fuel
    | .directive .other =>
      let _ ← take
      directives version fuel
    | _ => modify fun c => { c with handles := c.handles ++ defaultHandles }

def skipDocumentEnds : Nat → Compose Unit
  | 0 => refuse
  | fuel + 1 => do
    if ← ahead Token.Kind.isDocumentEnd then
      let _ ← take
      skipDocumentEnds fuel

/-- Composes the content after the marker of a document. -/
def documentContent (fuel : Nat) : Compose Nat := do
  let token ← peek
  if token.kind.isDirective || token.kind.isDocumentStart || token.kind.isDocumentEnd
      || token.kind.isStreamEnd then
    addEmpty token.start
  else node true false fuel

def endOfStream (fuel : Nat) : Compose Unit := do
  skipDocumentEnds fuel
  if ← ahead Token.Kind.isStreamEnd then return ()
  else
    modify fun c => { c with handles := [] }
    directives false fuel
    refuse

def document (fuel : Nat) : Compose (Option Nat) := do
  let token ← peek
  if token.kind.isStreamEnd then return none
  else if token.kind.isDirective || token.kind.isDocumentStart then
    directives false fuel
    let marker ← take
    if marker.kind.isDocumentStart then
      let root ← documentContent fuel
      endOfStream fuel
      return some root
    else refuse
  else
    modify fun c => { c with handles := defaultHandles }
    let root ← node true false fuel
    endOfStream fuel
    return some root

end Compose

/-- The document of a text, if it has one. Where tokens run out, the reason is why scanning
stopped. -/
def compose (text : List Char) : Except Stop (Option Document) :=
  let stream := scan text
  let fuel := 3 * stream.tokens.length + 3
  match (Compose.document fuel).run { tokens := stream.tokens } with
  | .ok (none, _) => .ok none
  | .ok (some root, composer) => .ok (some ⟨composer.nodes, root⟩)
  | .error (some stop) => .error stop
  | .error none => .error (stream.halt.getD .refused)

end Clat.Format.Yaml
