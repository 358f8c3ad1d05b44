import ModalKeys.Text.CaseData

/-! Lower-casing by the rules of Unicode. A character may have a small form of two characters, and
that of the capital sigma depends on its place in the word. -/
namespace ModalKeys.Text

/-- The small form of a character on its own. The dotted capital I is the only one whose small form
has two characters. -/
def lower (c : Char) : List Char :=
  if c.toNat < 0x80 then [c.toLower]
  else if c = '\u0130' then ['i', '\u0307']
  else
    match capitals.find? (·.holds c) with
    | some run => [run.smallOf c]
    | none => [c]

/-- Whether a letter comes next, characters that words hold beside letters left out. -/
def meetsLetter (cs : List Char) : Bool := (cs.dropWhile isCaseIgnorable).head?.any isCased

/-- The small form of a capital sigma, by what stands before it, the nearest first, and behind it:
the last letter of a word that has others has a form of its own. -/
def smallSigma (before after : List Char) : Char :=
  if meetsLetter before && !meetsLetter after then '\u03C2' else '\u03C3'

/-- The small form of what is left of a text, after the characters before it, the nearest first. -/
def lowercaseAfter (before : List Char) : List Char → List Char
  | [] => []
  | c :: cs =>
    (if c = '\u03A3' then [smallSigma before cs] else lower c) ++ lowercaseAfter (c :: before) cs

def lowercase (cs : List Char) : List Char := lowercaseAfter [] cs

end ModalKeys.Text
