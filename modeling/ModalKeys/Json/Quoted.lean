import ModalKeys.Text.Scan

/-! Strings of JSON text, written and read. -/
namespace ModalKeys.Json

/-- A digit of a small number in small hexadecimal letters. -/
def hexDigit (n : Nat) : Char := Nat.digitChar (n % 16)

/-- Quotes and backslashes are escaped, and so are the characters below the space, those without a
short escape by their number. -/
def encodeChar (c : Char) : List Char :=
  if c = '"' then ['\\', '"']
  else if c = '\\' then ['\\', '\\']
  else if c = '\x08' then ['\\', 'b']
  else if c = '\x0c' then ['\\', 'f']
  else if c = '\n' then ['\\', 'n']
  else if c = '\r' then ['\\', 'r']
  else if c = '\t' then ['\\', 't']
  else if c.toNat < 0x20 then
    ['\\', 'u', '0', '0', hexDigit (c.toNat / 16), hexDigit c.toNat]
  else [c]

/-- A text as a string. -/
def encode (text : String) : String :=
  String.ofList (['"'] ++ text.toList.flatMap encodeChar ++ ['"'])

open Scan

/-- The second half of a character written as two units. -/
def trailUnit : Scan Nat := do
  word ['\\', 'u']
  let unit ← hex 4
  check (0xDC00 ≤ unit && unit < 0xE000)
  return unit

/-- The character of one unit, or of a leading and a trailing one; half a pair is none. -/
def unicodeEscape : Scan Char := do
  let unit ← hex 4
  if unit < 0xD800 || 0xE000 ≤ unit then return Char.ofNat unit
  else
    check (unit < 0xDC00)
    let trail ← trailUnit
    return Char.ofNat (0x10000 + (unit - 0xD800) * 0x400 + (trail - 0xDC00))

/-- What follows the backslash of an escape. -/
def escape : Scan Char := do
  match ← one fun _ => true with
  | '"' => return '"'
  | '\\' => return '\\'
  | '/' => return '/'
  | 'b' => return '\x08'
  | 'f' => return '\x0c'
  | 'n' => return '\n'
  | 'r' => return '\r'
  | 't' => return '\t'
  | 'u' => unicodeEscape
  | _ => failure

/-- One character of a string. -/
def stringChar : Scan Char :=
  one (fun c => c != '"' && c != '\\' && 0x20 ≤ c.toNat) <|> (do char '\\'; escape)

def string : Scan String := do
  char '"'
  let cs ← many stringChar
  char '"'
  return String.ofList cs

end ModalKeys.Json
