import ModalKeys.Text.Scan

/-! White space, line ends and comments of TOML text. -/
namespace ModalKeys.Toml

open Scan

def isSpace (c : Char) : Bool := c == ' ' || c == '\t'

/-- A character that may stand anywhere but for the marks around it: no control other than the
tab. -/
def isPlain (c : Char) : Bool := c == '\t' || (0x20 ≤ c.toNat && c.toNat != 0x7F)

def spaces : Scan Unit := skip isSpace

/-- A line feed, perhaps after a carriage return. -/
def newline : Scan Unit := char '\n' <|> word ['\r', '\n']

def comment : Scan Unit := do
  char '#'
  skip isPlain

/-- The end of a line or of the text. -/
def lineEnd : Scan Unit := newline <|> atEnd

/-- What may follow a complete line: spaces and a comment. -/
def lineRest : Scan Unit := do
  spaces
  maybe comment
  lineEnd

/-- Spaces, line ends and whole comments, as between the items of an array. -/
def gap : Scan Unit := do
  maybe (many (do spaces; maybe comment; newline))
  spaces

end ModalKeys.Toml
