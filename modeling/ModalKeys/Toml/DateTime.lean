import ModalKeys.Toml.Layout

/-! Dates and times of TOML text. -/
namespace ModalKeys.Toml

open Scan

/-- Exactly `n` decimal digits that write a number between two bounds. -/
def field (n least most : Nat) : Scan Nat := do
  let value := ofDigits 10 (← exactly n (one Char.isDigit))
  check (least ≤ value && value ≤ most)
  return value

def isLeapYear (year : Nat) : Bool := year % 4 == 0 && (year % 100 != 0 || year % 400 == 0)

def daysInMonth (year month : Nat) : Nat :=
  if month = 2 then (if isLeapYear year then 29 else 28)
  else if month = 4 ∨ month = 6 ∨ month = 9 ∨ month = 11 then 30
  else 31

def date : Scan Unit := do
  let year ← field 4 0 9999
  char '-'
  let month ← field 2 1 12
  char '-'
  let _ ← field 2 1 (daysInMonth year month)

/-- Hours, minutes, seconds and perhaps a fraction; a minute may have a leap second. -/
def time : Scan Unit := do
  let _ ← field 2 0 23
  char ':'
  let _ ← field 2 0 59
  char ':'
  let _ ← field 2 0 60
  maybe (do char '.'; span1 Char.isDigit)

def offset : Scan Unit :=
  (do let _ ← one fun c => c == 'Z' || c == 'z') <|> (do
    let _ ← one fun c => c == '+' || c == '-'
    let _ ← field 2 0 23
    char ':'
    let _ ← field 2 0 59)

/-- A date, perhaps with a time and an offset, or a time alone. -/
def dateTime : Scan (List Char) :=
  spelled <|
    (do
      date
      maybe (do
        let _ ← one fun c => c == 'T' || c == 't' || c == ' '
        time
        maybe offset)) <|>
    time

end ModalKeys.Toml
