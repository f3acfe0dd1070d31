import Clat.Format.Yaml.Compose
import Clat.Format.Yaml.Construct

/-! Reading a YAML text. Values are made from the outside in: a collection is known as soon
as it is met, and what it holds is made after everything met before it. -/
namespace Clat.Format.Yaml

open Clat.Text

inductive Filling where
  | sequence
  | mapping
  | orderedMap
  | pairs

/-- The collection that a tag makes, and how it is filled. -/
def collectionOf? (tag : String) : Option (Collection × Filling) :=
  if tag = coreTag "seq" then some (.list, .sequence)
  else if tag = coreTag "map" then some (.mapping, .mapping)
  else if tag = coreTag "set" then some (.set, .mapping)
  else if tag = coreTag "omap" then some (.list, .orderedMap)
  else if tag = coreTag "pairs" then some (.list, .pairs)
  else none

/-- The values made so far by node number, and the collections to be filled. -/
structure Workshop where
  nodes : Array Node
  values : List (Nat × Value) := []
  waiting : List (Nat × Filling) := []

abbrev Make := StateT Workshop (Except Stop)

namespace Make

def fail {α : Type} (context : Option (String × Mark)) (problem : String) (place : Mark) : Make α :=
  throw (.trouble ⟨context, problem, place⟩)

def node (number : Nat) : Make Node := do
  match (← get).nodes[number]? with
  | some node => return node
  | none => throw .refused

/-- The value of a node. A node has one value wherever it is used. -/
def value (number : Nat) : Make Value := do
  match (← get).values.lookup number with
  | some value => return value
  | none =>
    let node ← node number
    let (value, filling) ←
      match collectionOf? node.tag with
      | some (kind, filling) => pure (Value.collection kind, [(number, filling)])
      | none =>
        match ← makeScalar (← get).nodes node with
        | some value => pure (value, [])
        | none =>
          fail none
            ("could not determine a constructor for the tag "
              ++ String.ofList (quoted node.tag.toList)) node.start
    modify fun w => { w with
      values := (number, value) :: w.values
      waiting := w.waiting ++ filling }
    return value

def values : List Nat → Make Unit
  | [] => return ()
  | number :: rest => do
    let _ ← value number
    values rest

def checkKey (start : Mark) (place : Mark) : Value → Make Unit
  | .collection kind =>
    fail (some ("while constructing a mapping", start))
      ("found unacceptable key (unhashable type: '" ++ (Value.collection kind).typeName ++ "')")
      place
  | _ => return ()

/-- Makes the entries of a mapping; `seen` are the keys before. -/
def entries (start : Mark) (seen : List (Nat × Value)) :
    List (Nat × Nat) → Make (List (Value × Value))
  | [] => return []
  | (key, item) :: rest => do
    let place := (← node key).start
    let keyValue ← value key
    checkKey start place keyValue
    if seen.any fun (number, other) => number == key || other.same keyValue then
      throw (.repeatedKey place)
    else
      let itemValue ← value item
      return (keyValue, itemValue) :: (← entries start ((key, keyValue) :: seen) rest)

/-- Makes the values of a list of mappings with one entry each. -/
def singles (doing : String) (start : Mark) : List Nat → Make Unit
  | [] => return ()
  | number :: rest => do
    let item ← node number
    match item.content with
    | .mapping [(key, value)] =>
      values [key, value]
      singles doing start rest
    | .mapping entries =>
      fail (some (doing, start))
        ("expected a single mapping item, but found " ++ toString entries.length ++ " items")
        item.start
    | content =>
      fail (some (doing, start))
        ("expected a mapping of length 1, but found " ++ content.kindName) item.start

def fillSingles (doing : String) (node : Node) : Make Unit :=
  match node.content with
  | .sequence items => singles doing node.start items
  | content =>
    fail (some (doing, node.start)) ("expected a sequence, but found " ++ content.kindName)
      node.start

/-- Fills a collection; the answer is its entries, if it is a mapping. -/
def fill (number : Nat) (filling : Filling) : Make (List (Value × Value)) := do
  let node ← node number
  match filling, node.content with
  | .sequence, .sequence items =>
    values items
    return []
  | .sequence, content =>
    fail none ("expected a sequence node, but found " ++ content.kindName) node.start
  | .mapping, .mapping pairs => entries node.start [] pairs
  | .mapping, content =>
    fail none ("expected a mapping node, but found " ++ content.kindName) node.start
  | .orderedMap, _ =>
    fillSingles "while constructing an ordered map" node
    return []
  | .pairs, _ =>
    fillSingles "while constructing pairs" node
    return []

/-- Fills the waiting collections in order; `fuel` is how many there may be. -/
def fillWaiting : Nat → Make Unit
  | 0 => return ()
  | fuel + 1 => do
    match (← get).waiting with
    | [] => return ()
    | (number, filling) :: rest =>
      modify fun w => { w with waiting := rest }
      let _ ← fill number filling
      fillWaiting fuel

/-- Makes the outermost value and, if it is a mapping, its entries. -/
def document (root : Nat) : Make (Value × List (Value × Value)) := do
  let rootValue ← value root
  match (← get).waiting with
  | [] => return (rootValue, [])
  | (number, filling) :: _ =>
    modify fun w => { w with waiting := [] }
    let rootEntries ← fill number filling
    fillWaiting (← get).nodes.size
    return (rootValue, rootEntries)

end Make

/-- The value that a text is and, if it is a mapping, its entries. An empty text is null. -/
def read (text : List Char) : Except Stop (Value × List (Value × Value)) := do
  match ← compose text with
  | none => return (.null, [])
  | some document =>
    let (result, _) ← (Make.document document.root).run { nodes := document.nodes }
    return result

end Clat.Format.Yaml
