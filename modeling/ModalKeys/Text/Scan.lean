/-! Readers of text: a reader takes what it reads off the front of the text, or fails and takes
nothing. -/
namespace ModalKeys

abbrev Scan := StateT (List Char) Option

namespace Scan

variable {α : Type}

/-- The next character, which stays where it is. -/
def peek : Scan (Option Char) := fun cs => some (cs.head?, cs)

/-- One character of a class. -/
def one (p : Char → Bool) : Scan Char
  | [] => none
  | c :: cs => if p c then some (c, cs) else none

def char (c : Char) : Scan Unit
  | [] => none
  | d :: cs => if d == c then some ((), cs) else none

/-- The characters of a word, in order. -/
def word : List Char → Scan Unit
  | [] => pure ()
  | c :: w => do
    char c
    word w

/-- All characters of a class up to the first that is not in it. -/
def span (p : Char → Bool) : Scan (List Char) := fun cs => some (cs.takeWhile p, cs.dropWhile p)

/-- The same, but at least one. -/
def span1 (p : Char → Bool) : Scan (List Char) := fun cs =>
  match cs.takeWhile p with
  | [] => none
  | taken => some (taken, cs.dropWhile p)

/-- Passes over the characters of a class. -/
def skip (p : Char → Bool) : Scan Unit := fun cs => some ((), cs.dropWhile p)

/-- Passes over what the reader takes, if it takes anything. -/
def maybe (r : Scan α) : Scan Unit := fun cs =>
  match r cs with
  | some (_, rest) => some ((), rest)
  | none => some ((), cs)

/-- Succeeds where the text ends. -/
def atEnd : Scan Unit := fun cs => if cs.isEmpty then some ((), []) else none

/-- Succeeds where a condition holds. -/
def check (b : Bool) : Scan Unit := if b then pure () else failure

/-- Reads up to `n` times, while the reader succeeds; `acc` holds what was read, reversed. -/
def upTo (r : Scan α) : Nat → List α → Scan (List α)
  | 0, acc => pure acc.reverse
  | n + 1, acc => fun cs =>
    match r cs with
    | some (a, rest) => upTo r n (a :: acc) rest
    | none => some (acc.reverse, cs)

/-- Reads while the reader succeeds. A reader that takes a character each time never meets the
limit. -/
def many (r : Scan α) : Scan (List α) := fun cs => upTo r cs.length [] cs

/-- Reads exactly `n` times. -/
def exactly : Nat → Scan α → Scan (List α)
  | 0, _ => pure []
  | n + 1, r => do
    let a ← r
    let as ← exactly n r
    return a :: as

/-- What a reader takes, as it is written. -/
def spelled (r : Scan α) : Scan (List Char) := fun cs =>
  match r cs with
  | some (_, rest) => some (cs.take (cs.length - rest.length), rest)
  | none => none

/-- Reads the whole text. -/
def whole (r : Scan α) (text : List Char) : Option α :=
  ((r <* atEnd).run text).map (·.1)

/-- The value of a hexadecimal digit of either case. -/
def hexValue (c : Char) : Nat :=
  if c.isDigit then c.toNat - '0'.toNat else c.toLower.toNat - 'a'.toNat + 10

def isHexDigit (c : Char) : Bool :=
  c.isDigit || ('a' ≤ c && c ≤ 'f') || ('A' ≤ c && c ≤ 'F')

/-- The number that digits of a base write. -/
def ofDigits (base : Nat) (digits : List Char) : Nat :=
  digits.foldl (fun n d => n * base + hexValue d) 0

/-- Exactly `n` hexadecimal digits, as a number. -/
def hex (n : Nat) : Scan Nat := ofDigits 16 <$> exactly n (one isHexDigit)

end Scan
end ModalKeys
