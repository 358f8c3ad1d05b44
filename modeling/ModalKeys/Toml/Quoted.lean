import ModalKeys.Toml.Layout

/-! The four kinds of TOML strings. -/
namespace ModalKeys.Toml

open Scan

/-- The character of a number that names one. -/
def scalarValue (n : Nat) : Scan Char :=
  if n < 0xD800 || (0xE000 ≤ n && n < 0x110000) then pure (Char.ofNat n) else failure

/-- An escape and its backslash. -/
def escape : Scan Char := do
  char '\\'
  match ← one fun _ => true with
  | 'b' => return '\x08'
  | 'f' => return '\x0c'
  | 'n' => return '\n'
  | 'r' => return '\r'
  | 't' => return '\t'
  | '"' => return '"'
  | '\\' => return '\\'
  | 'u' => scalarValue (← hex 4)
  | 'U' => scalarValue (← hex 8)
  | _ => failure

def isBasic (c : Char) : Bool := isPlain c && c != '"' && c != '\\'

def isLiteral (c : Char) : Bool := isPlain c && c != '\''

/-- A string of one line with escapes. -/
def basic : Scan String := do
  char '"'
  let cs ← many (one isBasic <|> escape)
  char '"'
  return String.ofList cs

/-- A string of one line without escapes. -/
def literal : Scan String := do
  char '\''
  let cs ← span isLiteral
  char '\''
  return String.ofList cs

/-- A backslash at the end of a line, with the blanks that it swallows. -/
def lineContinuation : Scan Unit := do
  char '\\'
  spaces
  newline
  maybe (many ((do let _ ← one isSpace) <|> newline))

/-- A line end inside a string of many lines is a line feed. -/
def lineFeed : Scan (List Char) := do
  newline
  return ['\n']

/-- A piece of a string of many lines with escapes, quotes apart. -/
def basicPiece : Scan (List Char) :=
  (do return [← one isBasic]) <|>
  (do lineContinuation; return []) <|>
  (do return [← escape]) <|>
  lineFeed

def literalPiece : Scan (List Char) :=
  (do return [← one isLiteral]) <|> lineFeed

/-- Fails where the text goes on with this character. -/
def notBefore (c : Char) : Scan Unit := do
  let next ← peek
  check (next != some c)

/-- One or two quotes inside a string of many lines. -/
def innerQuotes (quote : Char) : Scan (List Char) :=
  (do word [quote, quote]; notBefore quote; return [quote, quote]) <|>
  (do char quote; notBefore quote; return [quote])

/-- Three quotes end the string; up to two more in front of them belong to it. -/
def closingQuotes (quote : Char) : Scan (List Char) := do
  word [quote, quote, quote]
  let first ← optional (char quote)
  let second ← optional (char quote)
  return (first.toList ++ second.toList).map fun _ => quote

/-- A string between three quotes; a line end right after the opening ones is dropped. -/
def manyLines (quote : Char) (piece : Scan (List Char)) : Scan String := do
  word [quote, quote, quote]
  maybe newline
  let pieces ← many (piece <|> innerQuotes quote)
  let last ← closingQuotes quote
  return String.ofList (pieces.flatten ++ last)

def string : Scan String :=
  manyLines '"' basicPiece <|> basic <|> manyLines '\'' literalPiece <|> literal

end ModalKeys.Toml
