import ModalKeys.Toml.Layout

/-! Integers and floats of TOML text. Integers have 64 bits, and a positive float may not be too
large for a double. -/
namespace ModalKeys.Toml

open Scan

/-- Digits, the first of one class and the others of another; an underscore may stand between two
of them and is dropped. -/
def digits (first others : Char → Bool) : Scan (List Char) := do
  let d ← one first
  let ds ← many (one others <|> (do char '_'; one others))
  return d :: ds

def isNonzeroDigit (c : Char) : Bool := '1' ≤ c && c ≤ '9'

/-- Decimal digits without a leading zero. -/
def decimal : Scan (List Char) :=
  digits isNonzeroDigit Char.isDigit <|> (do return [← one Char.isDigit])

/-- Whether there is a minus sign; a plus sign says nothing. -/
def minus : Scan Bool := do
  let sign ← optional (one fun c => c == '+' || c == '-')
  return sign == some '-'

/-- A number in base sixteen, eight or two, after the mark of its base. -/
def based (letter : Char) (base : Nat) (isDigit : Char → Bool) : Scan Int := do
  word ['0', letter]
  return ofDigits base (← digits isDigit isDigit)

def decimalInteger : Scan Int := do
  let negative ← minus
  let n : Int := ofDigits 10 (← decimal)
  return if negative then -n else n

def integer : Scan Int := do
  let n ← based 'x' 16 isHexDigit <|> based 'o' 8 (fun c => '0' ≤ c && c ≤ '7') <|>
    based 'b' 2 (fun c => c == '0' || c == '1') <|> decimalInteger
  check (-Int.pow 2 63 ≤ n && n < Int.pow 2 63)
  return n

/-- Whether `digits` with the point moved by `power` places reads as no finite double. The number
lies between the powers of ten next to its length, which settles all but the close cases. -/
def overflows (digits : List Char) (power : Int) : Bool :=
  let significant := digits.dropWhile (· == '0')
  let magnitude := significant.length + power
  let n := ofDigits 10 significant
  if n = 0 ∨ magnitude ≤ 300 then false
  else if 400 < magnitude then true
  else Nat.pow 2 1024 - Nat.pow 2 970 ≤ n * Nat.pow 10 power.toNat / Nat.pow 10 (-power).toNat

def fractionPart : Scan (List Char) := do
  char '.'
  digits Char.isDigit Char.isDigit

def exponentPart : Scan Int := do
  let _ ← one fun c => c == 'e' || c == 'E'
  let negative ← minus
  let n : Int := ofDigits 10 (← digits Char.isDigit Char.isDigit)
  return if negative then -n else n

/-- A number with a fraction, an exponent or both. -/
def finiteFloat : Scan Unit := do
  let negative ← minus
  let whole ← decimal
  let fraction ← optional fractionPart
  let exponent ← optional exponentPart
  check (fraction.isSome || exponent.isSome)
  let fraction := fraction.getD []
  check (negative || !overflows (whole ++ fraction) (exponent.getD 0 - fraction.length))

def specialFloat : Scan Unit := do
  let _ ← minus
  word "inf".toList <|> word "nan".toList

def float : Scan (List Char) := spelled (finiteFloat <|> specialFloat)

end ModalKeys.Toml
