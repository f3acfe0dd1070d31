import Clat.Number.Binary64

/-! JSON values. The members of an object keep their order. -/
namespace Clat.Format

open Clat.Number

/-- A JSON value. The number forms outside the standard, infinities and not-a-number, are
values too. -/
inductive Json where
  | null
  | truth (value : Bool)
  | integer (value : Int)
  | float (value : Binary64)
  | string (value : String)
  | array (items : List Json)
  | object (members : List (String × Json))

end Clat.Format
