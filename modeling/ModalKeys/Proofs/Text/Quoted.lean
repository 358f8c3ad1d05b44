import ModalKeys.Proofs.Text.Numeral
import ModalKeys.Proofs.Text.Scan
import ModalKeys.Text.Quoted

/-! Quoting shows a text as it is: nothing in a quoted text is hidden, and it can be read back. -/
namespace ModalKeys.Text

/-- The first character that was quoted, and what comes behind it. -/
def unquotedChar? : List Char → Option (Char × List Char)
  | '\\' :: 'u' :: '{' :: rest =>
    some (Char.ofNat (Scan.ofDigits 16 (rest.takeWhile (· != '}'))),
      (rest.dropWhile (· != '}')).tail)
  | '\\' :: letter :: rest => (shortEscapes.find? (·.2 == letter)).map fun short => (short.1, rest)
  | c :: rest => some (c, rest)
  | [] => none

variable {c letter : Char}

/-! ## Characters -/

theorem isHidden_ascii (h : 0x20 ≤ c.toNat ∧ c.toNat < 0x7F) : isHidden c = false := by
  have hall : hiddenRanges.all fun range => range.2 < 0x20 || 0x7F ≤ range.1 := by
    decide +kernel
  rw [isHidden, inRanges, List.any_eq_false]
  intro range hrange
  have hout := List.all_eq_true.mp hall range hrange
  simp only [Bool.or_eq_true, Bool.and_eq_true, decide_eq_true_eq] at hout ⊢
  omega

theorem toDigits_plain {n : Nat} {d : Char} (h : d ∈ Nat.toDigits 16 n) :
    isHidden d = false ∧ d ≠ '}' := by
  obtain ⟨k, hk, rfl⟩ := Scan.mem_toDigits (by decide) h
  have hascii : ∀ k < 16, (0x20 ≤ k.digitChar.toNat ∧ k.digitChar.toNat < 0x7F) ∧
      k.digitChar ≠ '}' := by
    decide
  exact ⟨isHidden_ascii (hascii k hk).1, (hascii k hk).2⟩

/-- A letter that stands for a character stands for no other one, and is not hidden. -/
theorem shortEscapes_letter (h : (c, letter) ∈ shortEscapes) :
    shortEscapes.find? (·.2 == letter) = some (c, letter) ∧ letter ≠ 'u' ∧
      isHidden letter = false := by
  have hall : shortEscapes.all fun short =>
      shortEscapes.find? (·.2 == short.2) == some short && short.2 != 'u' &&
        decide (0x20 ≤ short.2.toNat ∧ short.2.toNat < 0x7F) := by
    decide
  have hletter := List.all_eq_true.mp hall _ h
  simp only [Bool.and_eq_true, beq_iff_eq, bne_iff_ne, decide_eq_true_eq] at hletter
  exact ⟨hletter.1.1, hletter.1.2, isHidden_ascii hletter.2⟩

/-- A character is quoted by its letter, by its number, or as it is. -/
theorem quotedChar_cases (c : Char) :
    (∃ letter, (c, letter) ∈ shortEscapes ∧ quotedChar c = ['\\', letter]) ∨
      quotedChar c = ['\\', 'u', '{'] ++ Nat.toDigits 16 c.toNat ++ ['}'] ∨
      quotedChar c = [c] ∧ c ≠ '\\' ∧ isHidden c = false := by
  unfold quotedChar
  split
  · next c' letter hfind =>
    have hsame : c' = c := by simpa using List.find?_some hfind
    exact .inl ⟨letter, hsame ▸ List.mem_of_find?_eq_some hfind, rfl⟩
  · next hnone =>
    right
    split
    · exact .inl rfl
    · next hshown =>
      have hplain : c ≠ '\\' := by
        rintro rfl
        exact absurd hnone (by decide)
      exact .inr ⟨rfl, hplain, by simpa using hshown⟩

theorem isHidden_quotedChar : ∀ d ∈ quotedChar c, isHidden d = false := by
  have hmark : ∀ d ∈ ['\\', 'u', '{', '}'], isHidden d = false := by
    have hall : ['\\', 'u', '{', '}'].all fun d => 0x20 ≤ d.toNat && d.toNat < 0x7F := by decide
    exact fun d hd => isHidden_ascii (by simpa using List.all_eq_true.mp hall d hd)
  rcases quotedChar_cases c with ⟨letter, hshort, hquoted⟩ | hquoted | ⟨hquoted, -, hshown⟩
  · simp [hquoted, hmark, (shortEscapes_letter hshort).2.2]
  · intro d hd
    simp only [hquoted, List.mem_append, List.mem_singleton] at hd
    rcases hd with (hd | hd) | rfl
    · exact hmark d (List.mem_append_left ['}'] hd)
    · exact (toDigits_plain hd).1
    · exact hmark _ (by simp)
  · simp [hquoted, hshown]

theorem unquotedChar?_quotedChar (c : Char) (rest : List Char) :
    unquotedChar? (quotedChar c ++ rest) = some (c, rest) := by
  rcases quotedChar_cases c with ⟨letter, hshort, hquoted⟩ | hquoted | ⟨hquoted, hplain, -⟩
  · obtain ⟨hfind, hletter, -⟩ := shortEscapes_letter hshort
    rw [hquoted]
    simp [unquotedChar?, hletter, hfind]
  · have hdigits : ∀ d ∈ Nat.toDigits 16 c.toNat, (d != '}') = true := fun d hd => by
      simpa using (toDigits_plain hd).2
    have hstop : ∀ d ∈ ('}' :: rest).head?, (d != '}') = false := by simp
    rw [hquoted]
    simp only [List.append_assoc, List.cons_append, List.nil_append, unquotedChar?]
    rw [Scan.takeWhile_append_stop hdigits hstop, Scan.dropWhile_append_stop hdigits hstop,
      Scan.ofDigits_toDigits (by decide) (by decide), Char.ofNat_toNat]
    rfl
  · rw [hquoted]
    simp [unquotedChar?, hplain]

/-! ## Texts -/

theorem flatMap_quotedChar_inj {as bs : List Char}
    (h : as.flatMap quotedChar = bs.flatMap quotedChar) : as = bs := by
  induction as generalizing bs with
  | nil =>
    cases bs with
    | nil => rfl
    | cons b bs =>
      have hread := congrArg unquotedChar? h
      rw [List.flatMap_cons, unquotedChar?_quotedChar] at hread
      cases hread
  | cons a as ih =>
    have hread := congrArg unquotedChar? h
    rw [List.flatMap_cons, unquotedChar?_quotedChar] at hread
    cases bs with
    | nil => cases hread
    | cons b bs =>
      rw [List.flatMap_cons, unquotedChar?_quotedChar, Option.some_inj, Prod.mk.injEq] at hread
      rw [hread.1, ih hread.2]

theorem quoted_injective : Function.Injective quoted := by
  intro a b h
  have hlists : ['"'] ++ a.toList.flatMap quotedChar ++ ['"'] =
      ['"'] ++ b.toList.flatMap quotedChar ++ ['"'] := String.ofList_injective h
  rw [List.append_left_inj, List.append_right_inj] at hlists
  exact String.toList_inj.mp (flatMap_quotedChar_inj hlists)

/-- Nothing in a quoted text is hidden, so it has no line end either; and another text is quoted
otherwise. -/
theorem quoted_shows (text : String) :
    (∀ c ∈ (quoted text).toList, isHidden c = false) ∧
      ∀ other, quoted other = quoted text ↔ other = text := by
  refine ⟨fun c hc => ?_, fun other => quoted_injective.eq_iff⟩
  have hquote : isHidden '"' = false := isHidden_ascii (by decide)
  rw [quoted, String.toList_ofList, List.mem_append, List.mem_append, List.mem_flatMap] at hc
  rcases hc with (hc | ⟨d, -, hc⟩) | hc
  · rw [List.mem_singleton.mp hc, hquote]
  · exact isHidden_quotedChar c hc
  · rw [List.mem_singleton.mp hc, hquote]

example : quoted "a \"b\"\x07\n" = "\"a \\\"b\\\"\\u\x7b7\x7d\\n\"" := by decide +kernel

end ModalKeys.Text
