/-! JSON values as their text has them: members keep their order and may be repeated, numbers keep
their digits. -/
namespace ModalKeys.Json

/-- A number as it is written. -/
structure Number where
  negative : Bool
  whole : List Char
  fraction : List Char := []
  /-- The sign and the digits of the exponent. -/
  exponent : Option (Bool × List Char) := none
  deriving DecidableEq, Repr

inductive Value where
  | null
  | bool (value : Bool)
  | number (value : Number)
  | string (text : String)
  | array (items : List Value)
  | object (members : List (String × Value))
  deriving Repr

/-- The value of the only member of that name. -/
def only? (name : String) (members : List (String × Value)) : Option Value :=
  match members.filter (·.1 == name) with
  | [(_, value)] => some value
  | _ => none

end ModalKeys.Json
