import Clat.Text.Quoted

/-! Items of a configuration: texts under keys. The path of a tree of items goes before the
key where an item is reported. -/
namespace Clat

open Clat.Text

structure Items where
  entries : List (String × String) := []
  path : String := "/"
  file : String := "."
  deriving DecidableEq, Repr

namespace Items

def get? (items : Items) (key : String) : Option String := items.entries.lookup key

def getOr (items : Items) (key : String) (default : Option String) : Option String :=
  match items.get? key with
  | some text => some text
  | none => default

def pathOf (items : Items) (key : String) : String := items.path ++ key

def isEmpty (items : Items) : Bool := items.entries.isEmpty

def described (items : Items) : String :=
  let entry (item : String × String) : String :=
    String.ofList (quoted item.1.toList) ++ ": " ++ String.ofList (quoted item.2.toList)
  "ConfigTree(\x7b" ++ ", ".intercalate (items.entries.map entry) ++ "\x7d)"

end Items
end Clat
