import Mathlib.Tactic.SplitIfs
import ModalKeys.Json.Reader
import ModalKeys.Proofs.Text.Scan

/-! How JSON values may be written: with white space around marks, with escapes for characters,
with exponents of either case and any sign. -/
namespace ModalKeys.Json

open Scan

/-! ## Strings -/

/-- The letters behind a backslash and the characters that they stand for. -/
def shortEscapes : List (Char × Char) :=
  [('"', '"'), ('\\', '\\'), ('/', '/'), ('b', '\x08'), ('f', '\x0c'), ('n', '\n'), ('r', '\r'),
    ('t', '\t')]

/-- Four hexadecimal digits and the number that they write. -/
structure WritesUnit (n : Nat) (digits : List Char) : Prop where
  length : digits.length = 4
  digit : ∀ d ∈ digits, isHexDigit d
  number : ofDigits 16 digits = n

/-- A character of a string is written as it is, by a letter, or by one unit or two. -/
inductive WritesChar : Char → List Char → Prop where
  | plain {c : Char} (quote : c ≠ '"') (backslash : c ≠ '\\') (graphic : 0x20 ≤ c.toNat) :
      WritesChar c [c]
  | short {letter c : Char} (escape : (letter, c) ∈ shortEscapes) : WritesChar c ['\\', letter]
  | unit {n : Nat} {ds : List Char} (digits : WritesUnit n ds) (whole : n < 0xD800 ∨ 0xE000 ≤ n) :
      WritesChar (Char.ofNat n) ('\\' :: 'u' :: ds)
  | pair {n n' : Nat} {ds ds' : List Char} (lead : WritesUnit n ds) (trail : WritesUnit n' ds')
      (isLead : 0xD800 ≤ n ∧ n < 0xDC00) (isTrail : 0xDC00 ≤ n' ∧ n' < 0xE000) :
      WritesChar (Char.ofNat (0x10000 + (n - 0xD800) * 0x400 + (n' - 0xDC00)))
        ('\\' :: 'u' :: (ds ++ '\\' :: 'u' :: ds'))

inductive WritesString : String → List Char → Prop where
  | quoted {text cs : List Char} (chars : Concat WritesChar text cs) :
      WritesString (String.ofList text) ('"' :: (cs ++ ['"']))

/-! ## Encoded strings -/

theorem isHexDigit_hexDigit (n : Nat) : isHexDigit (hexDigit n) := by
  have hdigit : ∀ k < 16, isHexDigit (Nat.digitChar k) := by decide
  exact hdigit _ (Nat.mod_lt n (by decide))

theorem hexValue_hexDigit (n : Nat) : hexValue (hexDigit n) = n % 16 := by
  have hvalue : ∀ k < 16, hexValue (Nat.digitChar k) = k := by decide
  exact hvalue _ (Nat.mod_lt n (by decide))

theorem writesUnit_control {c : Char} (h : c.toNat < 0x20) :
    WritesUnit c.toNat ['0', '0', hexDigit (c.toNat / 16), hexDigit c.toNat] where
  length := rfl
  digit := by
    simp only [List.mem_cons, List.not_mem_nil, or_false]
    rintro d (rfl | rfl | rfl | rfl)
    · rfl
    · rfl
    · exact isHexDigit_hexDigit _
    · exact isHexDigit_hexDigit _
  number := by
    have hzero : hexValue '0' = 0 := rfl
    simp only [ofDigits, List.foldl_cons, List.foldl_nil, hexValue_hexDigit, hzero]
    omega

theorem writesChar_encodeChar (c : Char) : WritesChar c (encodeChar c) := by
  unfold encodeChar
  split_ifs with hquote hbackslash hbackspace hfeed hline hreturn htab hcontrol
  · exact .short (by simp [shortEscapes, hquote])
  · exact .short (by simp [shortEscapes, hbackslash])
  · exact .short (by simp [shortEscapes, hbackspace])
  · exact .short (by simp [shortEscapes, hfeed])
  · exact .short (by simp [shortEscapes, hline])
  · exact .short (by simp [shortEscapes, hreturn])
  · exact .short (by simp [shortEscapes, htab])
  · have hunit := WritesChar.unit (writesUnit_control hcontrol) (.inl (by omega))
    rwa [Char.ofNat_toNat] at hunit
  · exact .plain hquote hbackslash (Nat.le_of_not_lt hcontrol)

theorem writesString_encode (text : String) : WritesString text (encode text).toList := by
  have hquoted := WritesString.quoted (Concat.flatMap writesChar_encodeChar text.toList)
  simpa [encode] using hquoted

example : encode "a\"\\\n\x01é" = "\"a\\\"\\\\\\n\\u0001é\"" := by decide

/-! ## Numbers -/

inductive WritesSign : Bool → List Char → Prop where
  | minus : WritesSign true ['-']
  | none : WritesSign false []

inductive WritesWhole : List Char → Prop where
  | zero : WritesWhole ['0']
  | digits {c : Char} {ds : List Char} (first : '1' ≤ c ∧ c ≤ '9') (others : ∀ d ∈ ds, d.isDigit) :
      WritesWhole (c :: ds)

/-- Without a digit there is no point. -/
inductive WritesFraction : List Char → List Char → Prop where
  | none : WritesFraction [] []
  | digits {ds : List Char} (nonempty : ds ≠ []) (digit : ∀ d ∈ ds, d.isDigit) :
      WritesFraction ds ('.' :: ds)

inductive WritesExponent : Option (Bool × List Char) → List Char → Prop where
  | none : WritesExponent none []
  | digits {e : Char} {negative : Bool} {cs ds : List Char} (mark : e = 'e' ∨ e = 'E')
      (sign : WritesSign negative cs ∨ negative = false ∧ cs = ['+']) (nonempty : ds ≠ [])
      (digit : ∀ d ∈ ds, d.isDigit) : WritesExponent (some (negative, ds)) (e :: (cs ++ ds))

inductive WritesNumber : Number → List Char → Prop where
  | parts {n : Number} {s f e : List Char} (sign : WritesSign n.negative s)
      (whole : WritesWhole n.whole) (fraction : WritesFraction n.fraction f)
      (exponent : WritesExponent n.exponent e) (inRange : n.inRange) :
      WritesNumber n (s ++ (n.whole ++ (f ++ e)))

/-! ## Values -/

def IsBlank (cs : List Char) : Prop := ∀ c ∈ cs, isSpace c

theorem IsBlank.nil : IsBlank [] := by simp [IsBlank]

section

variable {α : Type} (Item : α → List Char → Prop)

/-- An item behind a comma. -/
inductive WritesNext : α → List Char → Prop where
  | comma {a : α} {b b' cs : List Char} (before : IsBlank b) (after : IsBlank b')
      (item : Item a cs) : WritesNext a (b ++ ',' :: (b' ++ cs))

/-- Items between two brackets, parted by commas. -/
inductive WritesEnclosed (opening closing : Char) : List α → List Char → Prop where
  | none {b : List Char} (blank : IsBlank b) :
      WritesEnclosed opening closing [] (opening :: (b ++ [closing]))
  | items {a : α} {as : List α} {b b' cs text : List Char} (before : IsBlank b)
      (first : Item a cs) (others : Concat (WritesNext Item) as text) (after : IsBlank b') :
      WritesEnclosed opening closing (a :: as)
        (opening :: (b ++ (cs ++ (text ++ (b' ++ [closing])))))

end

inductive WritesMember (Item : Value → List Char → Prop) : String × Value → List Char → Prop where
  | named {name : String} {v : Value} {cs b b' text : List Char} (string : WritesString name cs)
      (before : IsBlank b) (after : IsBlank b') (value : Item v text) :
      WritesMember Item (name, v) (cs ++ (b ++ ':' :: (b' ++ text)))

inductive WritesScalar : Value → List Char → Prop where
  | null : WritesScalar .null "null".toList
  | true : WritesScalar (.bool true) "true".toList
  | false : WritesScalar (.bool false) "false".toList
  | string {s : String} {cs : List Char} (quoted : WritesString s cs) :
      WritesScalar (.string s) cs
  | number {n : Number} {cs : List Char} (parts : WritesNumber n cs) :
      WritesScalar (.number n) cs

/-- The texts of a value in which arrays and objects are nested at most `depth` deep. -/
def WritesValue : Nat → Value → List Char → Prop
  | 0, v, cs => WritesScalar v cs
  | depth + 1, v, cs => WritesScalar v cs ∨
      (∃ items, v = .array items ∧ WritesEnclosed (WritesValue depth) '[' ']' items cs) ∨
      ∃ members, v = .object members ∧
        WritesEnclosed (WritesMember (WritesValue depth)) '\x7b' '\x7d' members cs

theorem WritesScalar.value {v : Value} {cs : List Char} (h : WritesScalar v cs) (depth : Nat) :
    WritesValue depth v cs := by
  cases depth with
  | zero => exact h
  | succ depth => exact .inl h

end ModalKeys.Json
