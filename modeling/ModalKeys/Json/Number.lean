import ModalKeys.Json.Value
import ModalKeys.Text.Scan

/-! Numbers of JSON text. A number is read only if it is not too large for a double. -/
namespace ModalKeys.Json

/-- The 53 leading bits of a number, rounded to the nearest with ties to the even neighbour. -/
def roundTo53 (n : Nat) : Nat :=
  let excess := n.log2 + 1 - 53
  let unit := Nat.pow 2 excess
  let quotient := n / unit
  let twice := 2 * (n % unit)
  let up := unit < twice || (unit == twice && quotient % 2 == 1)
  (if up then quotient + 1 else quotient) * unit

/-- Appends digits to a number while it fits 64 bits; also gives the digits that did not fit. -/
def appendDigits : Nat → List Char → Nat × List Char
  | n, [] => (n, [])
  | n, d :: ds =>
    let next := n * 10 + Scan.hexValue d
    if next < Nat.pow 2 64 then appendDigits next ds else (n, d :: ds)

namespace Number

/-- The significand of 64 bits, and the power of ten that the written digits leave beside it:
digits of the whole part that do not fit raise it, digits of the fraction that fit lower it. -/
def scaled (n : Number) : Nat × Int :=
  let (upper, left) := appendDigits 0 n.whole
  let (significand, dropped) := appendDigits upper n.fraction
  (significand, left.length - (n.fraction.length - dropped.length : Nat))

/-- A number is too large if its significand times its power of ten, both rounded to doubles,
would round beyond the largest double. An exponent that does not fit 32 bits is out of range
unless it is negative or the number is zero. -/
def inRange (n : Number) : Bool :=
  let (significand, scale) := n.scaled
  let (negative, size) :=
    match n.exponent with
    | some (negative, digits) => (negative, Scan.ofDigits 10 digits)
    | none => (false, 0)
  if Nat.pow 2 31 ≤ size then negative || significand == 0
  else
    let power : Int := if negative then scale - size else scale + size
    if power < 0 then true
    else if power ≤ 308 then
      roundTo53 significand * roundTo53 (Nat.pow 10 power.toNat) < Nat.pow 2 1024 - Nat.pow 2 970
    else significand == 0

end Number

open Scan

/-- A zero alone, or digits that do not begin with one. -/
def wholePart : Scan (List Char) :=
  (do char '0'; return ['0']) <|> (do
    let first ← one fun c => '1' ≤ c && c ≤ '9'
    let others ← span Char.isDigit
    return first :: others)

def fractionPart : Scan (List Char) := do
  char '.'
  span1 Char.isDigit

/-- The exponent's sign, true for minus, and its digits. -/
def exponentPart : Scan (Bool × List Char) := do
  let _ ← one fun c => c == 'e' || c == 'E'
  let sign ← optional (one fun c => c == '+' || c == '-')
  let digits ← span1 Char.isDigit
  return (sign == some '-', digits)

def number : Scan Number := do
  let sign ← optional (char '-')
  let whole ← wholePart
  let fraction ← optional fractionPart
  let exponent ← optional exponentPart
  let n : Number := ⟨sign.isSome, whole, fraction.getD [], exponent⟩
  check n.inRange
  return n

end ModalKeys.Json
