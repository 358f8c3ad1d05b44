import Mathlib.Algebra.Group.Nat.Defs
import ModalKeys.Proofs.Text.Numeral
import ModalKeys.Proofs.Text.Scan
import ModalKeys.Toml.Reader

/-! The plain values of a text: truth values, strings of one line without escapes, and decimal
numbers. A number is read if it has no more than 64 bits with its sign, and refused otherwise: it is
neither a date nor a float. -/
namespace ModalKeys.Toml

open Scan

/-- How plain values are written. -/
inductive WritesScalar : Value → List Char → Prop where
  | true : WritesScalar (.bool true) "true".toList
  | false : WritesScalar (.bool false) "false".toList
  | string {text : List Char} (nonempty : text ≠ []) (basic : ∀ c ∈ text, isBasic c) :
      WritesScalar (.string (String.ofList text)) ('"' :: (text ++ ['"']))
  | number {n : Nat} (fits : n < 2 ^ 63) : WritesScalar (.integer n) (Nat.toDigits 10 n)

theorem isSpace_of_class {p : Char → Bool} {c : Char} (hc : p c) (hspace : p ' ' = false)
    (htab : p '\t' = false) : isSpace c = false := by
  simp [isSpace, ne_of_class hc hspace, ne_of_class hc htab]

variable (rest : List Char)

/-! ## Strings -/

theorem manyLines_ne {c quote : Char} (piece : Scan (List Char)) (h : c ≠ quote) :
    manyLines quote piece (c :: rest) = none := bind_none (word_ne rest _ h) _

theorem manyLines_single {c quote : Char} (piece : Scan (List Char)) (h : c ≠ quote) :
    manyLines quote piece (quote :: c :: rest) = none := by
  have hword : word [quote, quote, quote] (quote :: c :: rest) = none := by
    rw [word, bind_some (char_cons _ quote)]
    exact word_ne rest _ h
  exact bind_none hword _

theorem basic_ne {c : Char} (h : c ≠ '"') : basic (c :: rest) = none := bind_none (char_ne rest h) _

theorem literal_ne {c : Char} (h : c ≠ '\'') : literal (c :: rest) = none :=
  bind_none (char_ne rest h) _

theorem string_ne {c : Char} (h : c ≠ '"') (h' : c ≠ '\'') : string (c :: rest) = none := by
  rw [string, orElse_right _ (manyLines_ne rest _ h), orElse_right _ (basic_ne rest h),
    orElse_right _ (manyLines_ne rest _ h')]
  exact literal_ne rest h'

theorem basic_append {text : List Char} (h : ∀ c ∈ text, isBasic c) :
    basic ('"' :: (text ++ '"' :: rest)) = some (String.ofList text, rest) := by
  have hstop : (one isBasic <|> escape) ('"' :: rest) = none := by
    rw [orElse_right _ (one_of_not_mem rest rfl)]
    exact bind_none (char_ne rest (by decide)) _
  have hmany := many_chars (fun c rest hc => orElse_left escape (one_of_mem rest hc)) h hstop
  simp [basic, hmany]

theorem string_append {text : List Char} (hne : text ≠ []) (h : ∀ c ∈ text, isBasic c) :
    string ('"' :: (text ++ '"' :: rest)) = some (String.ofList text, rest) := by
  obtain ⟨c, others, rfl⟩ := List.exists_cons_of_ne_nil hne
  have hquote : c ≠ '"' := by
    rintro rfl
    exact absurd (h '"' (by simp)) (by decide)
  rw [string, List.cons_append, orElse_right _ (manyLines_single _ _ hquote), ← List.cons_append]
  exact orElse_left _ (basic_append rest h)

/-! ## Numbers -/

/-- A field of a date is not followed by its mark where only digits come before the line end. -/
theorem field_mark {β : Type} {ds : List Char} (hds : ∀ d ∈ ds, d.isDigit) (n least most : Nat)
    {mark : Char} (hdigit : mark.isDigit = false) (hline : mark ≠ '\n') (f : Nat → Unit → Scan β) :
    (field n least most >>= fun v => char mark >>= f v) (ds ++ '\n' :: rest) = none := by
  rcases exactly_stop '\n' rest rfl n hds with hnone | ⟨read, left, hleft, hread⟩
  · exact bind_none (bind_none hnone _) _
  · have hmark : char mark (left ++ '\n' :: rest) = none := by
      refine char_stop _ fun d hd => ?_
      cases left with
      | nil =>
        obtain rfl : '\n' = d := Option.some.inj hd
        exact hline.symm
      | cons c left =>
        obtain rfl : c = d := Option.some.inj hd
        exact ne_of_class (hleft c (by simp)) hdigit
    rw [bind_apply, field, bind_some hread]
    cases least ≤ ofDigits 10 read && ofDigits 10 read ≤ most <;> simp [hmark]

theorem dateTime_digits {ds : List Char} (hds : ∀ d ∈ ds, d.isDigit) :
    dateTime (ds ++ '\n' :: rest) = none := by
  have hdate : date (ds ++ '\n' :: rest) = none :=
    field_mark rest hds 4 0 9999 rfl (by decide) _
  have htime : time (ds ++ '\n' :: rest) = none :=
    field_mark rest hds 2 0 23 rfl (by decide) _
  refine spelled_none ?_
  rw [orElse_right _ (bind_none hdate _)]
  exact htime

theorem digits_append {first others : Char → Bool} {c : Char} {ds : List Char} (hc : first c)
    (hds : ∀ d ∈ ds, others d) (hstop : others '\n' = false) :
    digits first others (c :: (ds ++ '\n' :: rest)) = some (c :: ds, '\n' :: rest) := by
  have hend : (one others <|> (do char '_'; one others) : Scan Char) ('\n' :: rest) = none := by
    rw [orElse_right _ (one_of_not_mem rest hstop)]
    exact bind_none (char_ne rest (by decide)) _
  have hmany := many_chars (fun d rest hd => orElse_left _ (one_of_mem rest hd)) hds hend
  simp [digits, one_of_mem _ hc, hmany]

/-- The digits of a number are a zero alone, or they do not begin with one. -/
theorem toDigits_cases (n : Nat) :
    Nat.toDigits 10 n = ['0'] ∨
      ∃ c ds, Nat.toDigits 10 n = c :: ds ∧ isNonzeroDigit c ∧ ∀ d ∈ ds, d.isDigit := by
  rcases Nat.eq_zero_or_pos n with rfl | hn
  · exact .inl rfl
  · obtain ⟨c, ds, hds, hc⟩ := toDigits_eq_cons hn
    exact .inr ⟨c, ds, hds, by simpa [isNonzeroDigit] using hc,
      fun d hd => isDigit_toDigits (n := n) (by simp [hds, hd])⟩

theorem decimal_toDigits (n : Nat) :
    decimal (Nat.toDigits 10 n ++ '\n' :: rest) = some (Nat.toDigits 10 n, '\n' :: rest) := by
  rcases toDigits_cases n with hzero | ⟨c, ds, hds, hc, hothers⟩
  · rw [hzero, decimal, orElse_right _ rfl]
    rfl
  · rw [hds]
    exact orElse_left _ (digits_append rest hc hothers rfl)

theorem minus_digit {c : Char} (hc : c.isDigit) : minus (c :: rest) = some (false, c :: rest) := by
  have hsign : one (fun c => c == '+' || c == '-') (c :: rest) = none := by
    refine one_of_not_mem rest ?_
    simp [ne_of_class hc (d := '+') rfl, ne_of_class hc (d := '-') rfl]
  simp [minus, optional_none hsign]

theorem toDigits_head (n : Nat) : ∃ c ds, Nat.toDigits 10 n = c :: ds ∧ c.isDigit := by
  obtain ⟨c, ds, hds⟩ := List.exists_cons_of_ne_nil (Nat.toDigits_ne_nil (n := n) (b := 10))
  exact ⟨c, ds, hds, isDigit_toDigits (n := n) (by simp [hds])⟩

theorem minus_toDigits (n : Nat) :
    minus (Nat.toDigits 10 n ++ '\n' :: rest) =
      some (false, Nat.toDigits 10 n ++ '\n' :: rest) := by
  obtain ⟨c, ds, hds, hc⟩ := toDigits_head n
  rw [hds]
  exact minus_digit _ hc

/-- Without a fraction or an exponent a number is no float. -/
theorem float_toDigits (n : Nat) : float (Nat.toDigits 10 n ++ '\n' :: rest) = none := by
  have hfraction : optional fractionPart ('\n' :: rest) = some (none, '\n' :: rest) :=
    optional_none (bind_none (char_ne rest (by decide)) _)
  have hexponent : optional exponentPart ('\n' :: rest) = some (none, '\n' :: rest) :=
    optional_none (bind_none (one_of_not_mem rest (by decide)) _)
  have hfinite : finiteFloat (Nat.toDigits 10 n ++ '\n' :: rest) = none := by
    simp [finiteFloat, minus_toDigits, decimal_toDigits, hfraction, hexponent]
  have hspecial : specialFloat (Nat.toDigits 10 n ++ '\n' :: rest) = none := by
    rw [specialFloat, bind_some (minus_toDigits rest n)]
    obtain ⟨c, ds, hds, hc⟩ := toDigits_head n
    have hinf : word "inf".toList (c :: (ds ++ '\n' :: rest)) = none :=
      word_ne _ _ (ne_of_class hc rfl)
    have hnan : word "nan".toList (c :: (ds ++ '\n' :: rest)) = none :=
      word_ne _ _ (ne_of_class hc rfl)
    rw [hds, List.cons_append, orElse_right _ hinf]
    exact hnan
  refine spelled_none ?_
  rw [orElse_right _ hfinite]
  exact hspecial

theorem based_toDigits {letter : Char} (hletter : letter ≠ '\n') (base n : Nat)
    (isDigit : Char → Bool) :
    based letter base isDigit (Nat.toDigits 10 n ++ '\n' :: rest) = none := by
  refine bind_none ?_ _
  rcases toDigits_cases n with hzero | ⟨c, ds, hds, hc, -⟩
  · rw [hzero]
    exact (bind_some (char_cons _ '0') _).trans (word_ne rest [] hletter.symm)
  · have hne : c ≠ '0' := by
      rintro rfl
      cases hc
    rw [hds]
    exact word_ne _ _ hne

theorem decimalInteger_toDigits (n : Nat) :
    decimalInteger (Nat.toDigits 10 n ++ '\n' :: rest) = some ((n : Int), '\n' :: rest) := by
  simp [decimalInteger, minus_toDigits, decimal_toDigits, ofDigits_toDigits]

/-- A number without a sign is read up to the largest of 64 bits with a sign. -/
theorem integer_toDigits (n : Nat) :
    integer (Nat.toDigits 10 n ++ '\n' :: rest) =
      if n < 2 ^ 63 then some ((n : Int), '\n' :: rest) else none := by
  have hread : (based 'x' 16 isHexDigit <|> based 'o' 8 (fun c => '0' ≤ c && c ≤ '7') <|>
      based 'b' 2 (fun c => c == '0' || c == '1') <|> decimalInteger)
        (Nat.toDigits 10 n ++ '\n' :: rest) = some ((n : Int), '\n' :: rest) := by
    rw [orElse_right _ (based_toDigits rest (by decide) 16 n _),
      orElse_right _ (based_toDigits rest (by decide) 8 n _),
      orElse_right _ (based_toDigits rest (by decide) 2 n _)]
    exact decimalInteger_toDigits rest n
  have hpow : Int.pow 2 63 = 9223372036854775808 := rfl
  rw [integer, bind_some hread]
  split
  · rename_i hfits
    have hcheck : (-Int.pow 2 63 ≤ (n : Int) && (n : Int) < Int.pow 2 63) = true := by
      simp only [hpow, Bool.and_eq_true, decide_eq_true_eq]
      omega
    rw [hcheck]
    rfl
  · rename_i hfits
    have hcheck : (-Int.pow 2 63 ≤ (n : Int) && (n : Int) < Int.pow 2 63) = false := by
      simp only [hpow, Bool.and_eq_false_iff, decide_eq_false_iff_not]
      omega
    rw [hcheck]
    rfl

/-! ## Values -/

theorem scalar_toDigits (n : Nat) :
    scalar (Nat.toDigits 10 n ++ '\n' :: rest) =
      if n < 2 ^ 63 then some (.integer n, '\n' :: rest) else none := by
  have hdate : dateTime (Nat.toDigits 10 n ++ '\n' :: rest) = none :=
    dateTime_digits rest fun _ => isDigit_toDigits
  have hfloat := float_toDigits rest n
  have hinteger := integer_toDigits rest n
  obtain ⟨c, ds, hds, hc⟩ := toDigits_head n
  have hstring : string (c :: (ds ++ '\n' :: rest)) = none :=
    string_ne _ (ne_of_class hc rfl) (ne_of_class hc rfl)
  have htrue : word "true".toList (c :: (ds ++ '\n' :: rest)) = none :=
    word_ne _ _ (ne_of_class hc rfl)
  have hfalse : word "false".toList (c :: (ds ++ '\n' :: rest)) = none :=
    word_ne _ _ (ne_of_class hc rfl)
  rw [hds, List.cons_append] at hdate hfloat hinteger ⊢
  rw [scalar, orElse_right _ (bind_none hstring _), orElse_right _ (bind_none htrue _),
    orElse_right _ (bind_none hfalse _), orElse_right _ (bind_none hdate _),
    orElse_right _ (bind_none hfloat _), bind_apply, hinteger]
  split <;> rfl

theorem value_eq_scalar {c : Char} (harray : c ≠ '[') (htable : c ≠ '\x7b') (depth : Nat) :
    value depth (c :: rest) = scalar (c :: rest) := by
  cases depth with
  | zero => rfl
  | succ depth =>
    have hnoArray : array (value depth) (c :: rest) = none := bind_none (char_ne rest harray) _
    have hnoTable : inlineTable (value depth) (c :: rest) = none :=
      bind_none (char_ne rest htable) _
    rw [value, orElse_right _ (bind_none hnoArray _), orElse_right _ (bind_none hnoTable _)]

theorem value_toDigits (n depth : Nat) :
    value depth (Nat.toDigits 10 n ++ '\n' :: rest) =
      if n < 2 ^ 63 then some (.integer n, '\n' :: rest) else none := by
  rw [← scalar_toDigits]
  obtain ⟨c, ds, hds, hc⟩ := toDigits_head n
  rw [hds]
  exact value_eq_scalar _ (ne_of_class hc rfl) (ne_of_class hc rfl) depth

theorem WritesScalar.head {v : Value} {cs : List Char} (h : WritesScalar v cs) :
    ∃ c others, cs = c :: others ∧ ¬ isSpace c := by
  cases h with
  | true | false | string => exact ⟨_, _, rfl, by decide⟩
  | @number n =>
    obtain ⟨c, ds, hds, hc⟩ := toDigits_head n
    refine ⟨c, ds, hds, ?_⟩
    simp [isSpace_of_class hc rfl rfl]

/-- A plain value is read up to the end of its line. -/
theorem value_append {v : Value} {cs : List Char} (h : WritesScalar v cs) (depth : Nat) :
    value depth (cs ++ '\n' :: rest) = some (v, '\n' :: rest) := by
  cases h with
  | true => exact value_eq_scalar _ (by decide) (by decide) depth
  | false => exact value_eq_scalar _ (by decide) (by decide) depth
  | @string text nonempty basic =>
    have hread := string_append ('\n' :: rest) nonempty basic
    rw [List.cons_append, List.append_assoc, List.cons_append, List.nil_append,
      value_eq_scalar _ (by decide) (by decide)]
    exact orElse_left _ (bind_some hread _)
  | @number n fits =>
    rw [value_toDigits, if_pos fits]

end ModalKeys.Toml
