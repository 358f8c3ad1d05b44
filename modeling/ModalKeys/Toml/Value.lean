/-! TOML values, and how a table came to be. -/
namespace ModalKeys.Toml

/-- What wrote a table, on which it hangs who may still add to it. -/
inductive Origin where
  /-- An inline table: complete as written. -/
  | inline
  /-- A header of its own. -/
  | header
  /-- A longer header that passes through it. -/
  | implied
  /-- A dotted key. -/
  | dotted
  deriving DecidableEq, Repr

/-- Dates, times and floats are kept as they are written: only their form matters. -/
inductive Value where
  | string (text : String)
  | integer (value : Int)
  | float (literal : List Char)
  | bool (value : Bool)
  | dateTime (literal : List Char)
  | array (items : List Value)
  | table (origin : Origin) (entries : List (String × Value))
  /-- The tables of one `[[header]]`, the latest first. -/
  | tables (latest : List (String × Value)) (earlier : List (List (String × Value)))
  deriving Repr

/-- The entries of a table, in order, no name twice. -/
abbrev Entries := List (String × Value)

end ModalKeys.Toml
