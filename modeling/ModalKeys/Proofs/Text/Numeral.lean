import ModalKeys.Text.Scan

/-! Numerals. The digits of a number write it, and only those of zero begin with a zero. -/
namespace ModalKeys.Scan

theorem mem_toDigits {b n : Nat} {d : Char} (hb : 1 < b) (h : d ∈ Nat.toDigits b n) :
    ∃ k < b, d = k.digitChar := by
  induction n using Nat.strongRecOn with
  | ind n ih =>
    rw [Nat.toDigits_eq_if hb] at h
    split at h
    · next hsmall => exact ⟨n, hsmall, List.mem_singleton.mp h⟩
    · next hlarge =>
      rcases List.mem_append.mp h with h | h
      · exact ih (n / b) (Nat.div_lt_self (by omega) hb) h
      · exact ⟨n % b, Nat.mod_lt n (by omega), List.mem_singleton.mp h⟩

theorem isDigit_toDigits {n : Nat} {d : Char} (h : d ∈ Nat.toDigits 10 n) : d.isDigit :=
  Nat.isDigit_of_mem_toDigits (by decide) (by decide) h

theorem hexValue_digitChar {k : Nat} (h : k < 16) : hexValue k.digitChar = k := by
  revert k
  decide

theorem ofDigits_toDigits {b : Nat} (hb : 1 < b) (hle : b ≤ 16) (n : Nat) :
    ofDigits b (Nat.toDigits b n) = n := by
  induction n using Nat.strongRecOn with
  | ind n ih =>
    rw [Nat.toDigits_eq_if hb]
    split
    · next hsmall =>
      change 0 * b + hexValue n.digitChar = n
      rw [hexValue_digitChar (by omega)]
      omega
    · next hlarge =>
      have hfirst := ih (n / b) (Nat.div_lt_self (by omega) hb)
      have hlast : n % b < 16 := Nat.lt_of_lt_of_le (Nat.mod_lt n (by omega)) hle
      rw [ofDigits, List.foldl_append, ← ofDigits, hfirst]
      change n / b * b + hexValue (n % b).digitChar = n
      rw [hexValue_digitChar hlast]
      exact Nat.div_add_mod' n b

theorem toDigits_eq_cons {n : Nat} (h : 0 < n) :
    ∃ c cs, Nat.toDigits 10 n = c :: cs ∧ '1' ≤ c ∧ c ≤ '9' := by
  induction n using Nat.strongRecOn with
  | ind n ih =>
    by_cases hsmall : n < 10
    · have hdigit : ∀ k < 10, 0 < k → '1' ≤ k.digitChar ∧ k.digitChar ≤ '9' := by decide
      exact ⟨n.digitChar, [], Nat.toDigits_of_lt_base hsmall, hdigit n hsmall h⟩
    · -- the first digit is that of the number without its last one
      obtain ⟨c, cs, hcs, hc⟩ := ih (n / 10) (by omega) (by omega)
      refine ⟨c, cs ++ [(n % 10).digitChar], ?_, hc⟩
      rw [Nat.toDigits_of_base_le (by decide) (by omega), hcs, List.cons_append]

end ModalKeys.Scan
