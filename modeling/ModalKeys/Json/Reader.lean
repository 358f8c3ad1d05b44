import ModalKeys.Json.Number
import ModalKeys.Json.Quoted

/-! The reader of JSON text. Arrays and objects may be nested 127 deep. -/
namespace ModalKeys.Json

open Scan

def isSpace (c : Char) : Bool := c == ' ' || c == '\t' || c == '\n' || c == '\r'

def spaces : Scan Unit := skip isSpace

/-- A mark with white space on both sides. -/
def mark (c : Char) : Scan Unit := do
  spaces
  char c
  spaces

/-- A value that holds no other. -/
def scalar : Scan Value :=
  (do word "null".toList; return .null) <|>
  (do word "true".toList; return .bool true) <|>
  (do word "false".toList; return .bool false) <|>
  (do return .string (← string)) <|>
  (do return .number (← number))

/-- Items between two brackets, parted by commas. -/
def enclosed {α : Type} (opening closing : Char) (item : Scan α) : Scan (List α) := do
  char opening
  spaces
  let items ← optional (do
    let first ← item
    let others ← many (do mark ','; item)
    return first :: others)
  spaces
  char closing
  return items.getD []

def member (value : Scan Value) : Scan (String × Value) := do
  let name ← string
  mark ':'
  return (name, ← value)

/-- A value in which arrays and objects are nested at most `depth` deep. -/
def value : Nat → Scan Value
  | 0 => scalar
  | depth + 1 =>
    (do return .array (← enclosed '[' ']' (value depth))) <|>
    (do return .object (← enclosed '\x7b' '\x7d' (member (value depth)))) <|>
    scalar

def maxDepth : Nat := 127

/-- The value that a text writes. -/
def parse? (text : String) : Option Value :=
  Scan.whole (do spaces; let v ← value maxDepth; spaces; return v) text.toList

end ModalKeys.Json
