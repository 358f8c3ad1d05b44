import ModalKeys.Toml.DateTime
import ModalKeys.Toml.Number
import ModalKeys.Toml.Quoted
import ModalKeys.Toml.Table

/-! The reader of TOML text. Arrays and inline tables may be nested 79 deep, and a key has at most
79 parts. -/
namespace ModalKeys.Toml

open Scan

def maxDepth : Nat := 79

def isBare (c : Char) : Bool := c.isAlphanum || c == '_' || c == '-'

/-- One part of a key, with the spaces around it. -/
def keyPart : Scan String := do
  spaces
  let name ← basic <|> literal <|> String.ofList <$> span1 isBare
  spaces
  return name

/-- The parts of a key but the last, and the last. -/
def key : Scan (List String × String) := do
  let first ← keyPart
  let others ← many (do char '.'; keyPart)
  check (others.length < maxDepth)
  let parts := first :: others
  return (parts.dropLast, parts.getLastD first)

/-- A pair of a key and a value. -/
def pair (value : Scan Value) : Scan (List String × Value) := do
  let (path, name) ← key
  char '='
  spaces
  return (path ++ [name], ← value)

def scalar : Scan Value :=
  (do return .string (← string)) <|>
  (do word "true".toList; return .bool true) <|>
  (do word "false".toList; return .bool false) <|>
  (do return .dateTime (← dateTime)) <|>
  (do return .float (← float)) <|>
  (do return .integer (← integer))

/-- Values between brackets, over any number of lines; a comma may follow the last. -/
def array (value : Scan Value) : Scan (List Value) := do
  let item : Scan Value := do
    gap
    let v ← value
    gap
    return v
  char '['
  let items ← optional (do
    let first ← item
    let others ← many (do char ','; item)
    maybe (char ',')
    return first :: others)
  gap
  char ']'
  return items.getD []

/-- Pairs between braces, on one line. -/
def inlineTable (value : Scan Value) : Scan Entries := do
  let item : Scan (List String × Value) := do
    let p ← pair value
    spaces
    return p
  char '\x7b'
  let pairs ← optional (do
    let first ← item
    let others ← many (do char ','; item)
    return first :: others)
  spaces
  char '\x7d'
  StateT.lift (Entries.ofPairs? (pairs.getD []))

/-- A value in which arrays and inline tables are nested at most `depth` deep. -/
def value : Nat → Scan Value
  | 0 => scalar
  | depth + 1 =>
    (do return .array (← array (value depth))) <|>
    (do return .table .inline (← inlineTable (value depth))) <|>
    scalar

/-- One line of a text; a comment or an empty line says nothing. -/
def line : Scan (Option Statement) :=
  (do comment; lineEnd; return none) <|>
  (do newline; return none) <|>
  (do
    word ['[', '[']
    let (path, name) ← key
    word [']', ']']
    lineRest
    return some (.element path name)) <|>
  (do
    char '['
    let (path, name) ← key
    char ']'
    lineRest
    return some (.table path name)) <|>
  (do
    let (key, v) ← pair (value maxDepth)
    lineRest
    return some (.pair key v))

/-- The lines of a text, which may begin with a byte order mark. -/
def statements : Scan (List Statement) := do
  maybe (char '\uFEFF')
  spaces
  let lines ← many (do let s ← line; spaces; return s)
  return lines.filterMap id

/-- The entries of a text's root table. -/
def parse? (text : String) : Option Entries :=
  (Scan.whole statements text.toList).bind Document.ofStatements?

end ModalKeys.Toml
