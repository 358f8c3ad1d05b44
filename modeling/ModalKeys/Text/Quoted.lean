import ModalKeys.Text.CaseData
import ModalKeys.Text.HiddenData

/-! A text in double quotes, with an escape for everything that would not show. -/
namespace ModalKeys.Text

def isHidden (c : Char) : Bool := inRanges hiddenRanges c

/-- Characters with an escape of their own, and the letter that stands for each. -/
def shortEscapes : List (Char × Char) :=
  [('\x00', '0'), ('\t', 't'), ('\r', 'r'), ('\n', 'n'), ('"', '"'), ('\\', '\\')]

/-- Hidden characters that have no short escape are written by their number. -/
def quotedChar (c : Char) : List Char :=
  match shortEscapes.find? (·.1 == c) with
  | some (_, letter) => ['\\', letter]
  | none =>
    if isHidden c then ['\\', 'u', '{'] ++ Nat.toDigits 16 c.toNat ++ ['}']
    else [c]

def quoted (text : String) : String :=
  String.ofList (['"'] ++ text.toList.flatMap quotedChar ++ ['"'])

end ModalKeys.Text
