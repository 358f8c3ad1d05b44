import Mathlib.Data.List.Forall2
import ModalKeys.Text.LetterCase

/-! Lower-casing and words of small ASCII letters. The Kelvin sign is the only character outside
ASCII whose small form is such a letter, so a text that becomes a word without k has nothing but
the letters of that word, in either case. -/
namespace ModalKeys.Text

/-- The same character, or a letter from A to Z and its small form, either way round. -/
def SameLetter (c d : Char) : Prop :=
  c = d ∨ c.isUpper ∧ d.toNat = c.toNat + 32 ∨ d.isUpper ∧ c.toNat = d.toNat + 32

variable {c d : Char} {cs w : List Char}

theorem isUpper_iff : c.isUpper ↔ 65 ≤ c.toNat ∧ c.toNat ≤ 90 := by
  change decide ('A'.val ≤ c.val ∧ c.val ≤ 'Z'.val) = true ↔ _
  rw [decide_eq_true_eq, UInt32.le_iff_toNat_le, UInt32.le_iff_toNat_le]
  rfl

theorem isLower_iff : c.isLower ↔ 97 ≤ c.toNat ∧ c.toNat ≤ 122 := by
  change (decide ('a'.val ≤ c.val) && decide (c.val ≤ 'z'.val)) = true ↔ _
  rw [Bool.and_eq_true, decide_eq_true_eq, decide_eq_true_eq, UInt32.le_iff_toNat_le,
    UInt32.le_iff_toNat_le]
  rfl

theorem not_isUpper_of_isLower (h : c.isLower) : ¬ c.isUpper := by
  rw [isLower_iff] at h
  rw [isUpper_iff]
  omega

theorem toNat_ofNat {n : Nat} (h : n.isValidChar) : (Char.ofNat n).toNat = n := by
  rw [Char.ofNat, dif_pos h]
  rfl

theorem toNat_toLower (h : c.isUpper) : c.toLower.toNat = c.toNat + 32 := by
  have hrange := isUpper_iff.mp h
  have hfits : c.toNat + 32 < 2 ^ 32 := by omega
  have hval : c.toLower.val = c.val + ('a'.val - 'A'.val) :=
    congrArg Char.val (dif_pos (of_decide_eq_true h))
  rw [← Char.toNat_val, hval, UInt32.toNat_add]
  exact Nat.mod_eq_of_lt hfits

theorem toLower_of_not_isUpper (h : ¬ c.isUpper) : c.toLower = c :=
  dif_neg fun hcapital => h (decide_eq_true hcapital)

theorem toLower_eq_iff (hd : d.isLower) : c.toLower = d ↔ SameLetter c d := by
  have hcapital : d.isUpper = false := by simpa using not_isUpper_of_isLower hd
  by_cases hc : c.isUpper
  · have hne : c ≠ d := by
      rintro rfl
      exact not_isUpper_of_isLower hd hc
    rw [← Char.toNat_inj, toNat_toLower hc]
    simp [SameLetter, hc, hcapital, hne, eq_comm]
  · rw [toLower_of_not_isUpper hc]
    simp [SameLetter, hc, hcapital]

theorem SameLetter.ascii (hd : d.isLower) (h : SameLetter c d) :
    65 ≤ c.toNat ∧ c.toNat ≤ 122 := by
  have hrange := isLower_iff.mp hd
  rcases h with rfl | ⟨hc, -⟩ | ⟨hcapital, -⟩
  · omega
  · have hcrange := isUpper_iff.mp hc
    omega
  · exact absurd hcapital (not_isUpper_of_isLower hd)

/-! ## Small forms of characters outside ASCII -/

/-- No small form of the run is an ASCII letter other than k. -/
def CaseRun.IsForeign (run : CaseRun) : Prop :=
  run.first = run.last ∧ run.small = 'k'.toNat ∨
    0x80 ≤ run.small ∧ (run.small + (run.last - run.first) < 0xD800 ∨
      0xE000 ≤ run.small ∧ run.small + (run.last - run.first) < 0x110000)

instance (run : CaseRun) : Decidable run.IsForeign := inferInstanceAs (Decidable (_ ∨ _))

theorem capitals_foreign {run : CaseRun} (h : run ∈ capitals) : run.IsForeign := by
  have hall : capitals.all fun run => decide run.IsForeign := by decide +kernel
  simpa using List.all_eq_true.mp hall run h

theorem CaseRun.IsForeign.smallOf {run : CaseRun} (h : run.IsForeign) (hc : run.holds c) :
    run.smallOf c = 'k' ∨ 0x80 ≤ (run.smallOf c).toNat := by
  simp only [CaseRun.holds, Bool.and_eq_true, decide_eq_true_eq] at hc
  rcases h with ⟨hone, hk⟩ | ⟨hsmall, hvalid⟩
  · left
    have hfirst : c.toNat - run.first = 0 := by omega
    rw [CaseRun.smallOf, hk, hfirst]
    rfl
  · right
    have hchar : (run.small + (c.toNat - run.first)).isValidChar := by
      rw [Nat.isValidChar]
      omega
    rw [CaseRun.smallOf, toNat_ofNat hchar]
    omega

theorem lower_foreign (hc : 0x80 ≤ c.toNat) : ∃ e ∈ lower c, e = 'k' ∨ 0x80 ≤ e.toNat := by
  rw [lower, if_neg (Nat.not_lt.mpr hc)]
  split
  · exact ⟨'\u0307', by simp, .inr (by decide)⟩
  · split
    · next run hfind =>
      have hholds : run.holds c := by simpa using List.find?_some hfind
      exact ⟨run.smallOf c, by simp,
        (capitals_foreign (List.mem_of_find?_eq_some hfind)).smallOf hholds⟩
    · exact ⟨c, by simp, .inr hc⟩

theorem smallSigma_foreign (before after : List Char) :
    0x80 ≤ (smallSigma before after).toNat := by
  unfold smallSigma
  split <;> decide

/-! ## Texts -/

/-- A word of small ASCII letters in which the Kelvin sign has no counterpart. -/
def IsPlain (w : List Char) : Prop := ∀ d ∈ w, d.isLower ∧ d ≠ 'k'

theorem not_plain_of_foreign {e : Char} (he : e = 'k' ∨ 0x80 ≤ e.toNat) (hmem : e ∈ w) :
    ¬ IsPlain w := by
  intro hw
  obtain ⟨hlower, hk⟩ := hw e hmem
  have hrange := isLower_iff.mp hlower
  rcases he with rfl | he
  · exact hk rfl
  · omega

/-- Whatever stands around it, a character outside ASCII keeps a text from becoming a plain
word. -/
theorem lowercaseAfter_eq_iff (before : List Char) (hw : IsPlain w) :
    lowercaseAfter before cs = w ↔ List.Forall₂ SameLetter cs w := by
  induction cs generalizing before w with
  | nil => simp [lowercaseAfter, eq_comm]
  | cons c cs ih =>
    rw [lowercaseAfter]
    by_cases hc : c.toNat < 0x80
    · have hsigma : c ≠ '\u03A3' := by
        rintro rfl
        revert hc
        decide
      rw [if_neg hsigma, lower, if_pos hc, List.singleton_append]
      cases w with
      | nil => simp
      | cons d w =>
        have hd := (hw d (by simp)).1
        have hrest : IsPlain w := fun e he => hw e (by simp [he])
        rw [List.cons_eq_cons, List.forall₂_cons, toLower_eq_iff hd, ih _ hrest]
    · have hforeign : ∃ e ∈ if c = '\u03A3' then [smallSigma before cs] else lower c,
          e = 'k' ∨ 0x80 ≤ e.toNat := by
        split
        · exact ⟨_, by simp, .inr (smallSigma_foreign before cs)⟩
        · exact lower_foreign (Nat.le_of_not_lt hc)
      obtain ⟨e, he, hwrong⟩ := hforeign
      refine iff_of_false ?_ ?_
      · rintro rfl
        exact not_plain_of_foreign hwrong (List.mem_append_left _ he) hw
      · intro hletters
        obtain ⟨d, w, hsame, -, rfl⟩ := List.forall₂_cons_left_iff.mp hletters
        have hrange := hsame.ascii (hw d (by simp)).1
        omega

theorem lowercase_eq_iff (hw : IsPlain w) :
    lowercase cs = w ↔ List.Forall₂ SameLetter cs w := lowercaseAfter_eq_iff [] hw

/-- Lower-casing that leaves everything outside ASCII alone does the same to plain words, and to
words with a k as well. -/
theorem map_toLower_eq_iff (hw : ∀ d ∈ w, d.isLower) :
    cs.map Char.toLower = w ↔ List.Forall₂ SameLetter cs w := by
  induction cs generalizing w with
  | nil => simp [eq_comm]
  | cons c cs ih =>
    cases w with
    | nil => simp
    | cons d w =>
      have hrest : ∀ e ∈ w, e.isLower := fun e he => hw e (by simp [he])
      rw [List.map_cons, List.cons_eq_cons, List.forall₂_cons, toLower_eq_iff (hw d (by simp)),
        ih hrest]

end ModalKeys.Text
