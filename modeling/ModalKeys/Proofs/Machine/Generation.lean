import ModalKeys.Proofs.Machine.Coherence

/-! What can be armed after an operation. A key is armed only by the reading that opens it and gets
a generation of its own; generations never fall, so one that has been settled is not armed again. -/
namespace ModalKeys

variable {σ : Type}

namespace Machine

variable (E : Editor σ) (m : Machine σ) (now : Nat)

/-- The key that was read opens a two-key command. -/
structure Opens (key : String) (a : Armed) : Prop where
  mode : m.state.mode = .command
  slot : m.state.pending = ""
  key_eq : a.key = key
  first : key ∈ ["g", "y", "d"]
  deadline : a.deadline = now + m.timer.timeout
  generation : m.timer.generation < a.generation

variable {E m now} {key : String} {a : Armed}

/-! ## Where an armed key comes from -/

theorem armed_of_expire {generation : Nat}
    (h : (m.expire E generation).2.timer.armed = some a) : m.timer.armed = some a := by
  obtain ⟨fired, m', he, h'⟩ := m.expire_expires E generation
  rw [he] at h
  cases h' with
  | stale => exact h
  | foreign => cases h
  | fired => simp at h

theorem armed_of_expireDue (h : (m.expireDue E now).2.timer.armed = some a) :
    m.timer.armed = some a := by
  rcases m.expireDue_cases E now with ⟨-, he⟩ | ⟨b, -, -, he⟩
  · rw [he] at h
    exact h
  · rw [he] at h
    exact armed_of_expire h

/-- In command mode only the key that was read can be armed; the other modes leave the timer. -/
theorem armed_of_read (h : (m.read E now key).2.timer.armed = some a) :
    m.Opens now key a ∨ m.state.mode ≠ .command ∧ m.timer.armed = some a := by
  have hle : m.timer.generation ≤ m.timer.cancel.generation := PrefixTimer.generation_le_cancel
  obtain ⟨d, m', hr, h'⟩ := m.read_reads E now key
  rw [hr] at h
  cases h' with
  | off mode => exact .inr ⟨by simp [mode], h⟩
  | colon => simp at h
  | second => simp [close] at h
  | opens mode slot first =>
    rw [PrefixTimer.arm_armed, Option.some.injEq] at h
    subst h
    left
    exact {
      mode := mode
      slot := slot
      key_eq := rfl
      first := Grammar.isPrefixKey_iff.mp first
      deadline := by rw [PrefixTimer.cancel_timeout]
      generation := Nat.lt_succ_of_le hle }
  | single => simp [close] at h
  | escape mode => exact .inr ⟨by simp [mode], by simpa using h⟩
  | typed mode => exact .inr ⟨by simp [mode], h⟩
  | visual mode => exact .inr ⟨by simp [mode], by simpa using h⟩

theorem setMode_unarmed (mode : Mode) : (m.setMode mode).timer.armed = none :=
  PrefixTimer.cancel_armed

/-! ## Generations -/

variable (E m now)

theorem generation_le_expire (generation : Nat) :
    m.timer.generation ≤ (m.expire E generation).2.timer.generation := by
  obtain ⟨fired, m', he, h⟩ := m.expire_expires E generation
  rw [he]
  cases h <;> simp

theorem generation_le_read (key : String) :
    m.timer.generation ≤ (m.read E now key).2.timer.generation := by
  have hle : m.timer.generation ≤ m.timer.cancel.generation := PrefixTimer.generation_le_cancel
  obtain ⟨d, m', hr, h⟩ := m.read_reads E now key
  rw [hr]
  cases h with
  | colon => exact hle
  | second => simpa [close] using hle
  | opens => exact Nat.le_succ_of_le hle
  | single => simpa [close] using hle
  | _ => simp

theorem generation_le_setMode (mode : Mode) :
    m.timer.generation ≤ (m.setMode mode).timer.generation := PrefixTimer.generation_le_cancel

theorem kept_generation (generation : Nat) :
    Kept E now (fun m => generation ≤ m.timer.generation) where
  expire m g h := Nat.le_trans h (m.generation_le_expire E g)
  read m key h := Nat.le_trans h (m.generation_le_read E now key)
  setMode m mode h := Nat.le_trans h (m.generation_le_setMode mode)

end Machine

/-- No key of this generation or an older one is armed, nor will one be. -/
structure Passed (generation : Nat) (m : Machine σ) : Prop where
  le : generation ≤ m.timer.generation
  lt : ∀ a, m.timer.armed = some a → generation < a.generation

namespace Passed

variable {E : Editor σ} {m : Machine σ} {generation now : Nat}

theorem of_unarmed (hle : generation ≤ m.timer.generation) (h : m.timer.armed = none) :
    Passed generation m := ⟨hle, by simp [h]⟩

theorem ne {a : Armed} (h : Passed a.generation m) : m.timer.armed ≠ some a := fun ha =>
  Nat.lt_irrefl _ (h.lt a ha)

theorem expire (h : Passed generation m) (g : Nat) : Passed generation (m.expire E g).2 where
  le := Nat.le_trans h.le (m.generation_le_expire E g)
  lt a ha := h.lt a (Machine.armed_of_expire ha)

theorem read (h : Passed generation m) (key : String) :
    Passed generation (m.read E now key).2 where
  le := Nat.le_trans h.le (m.generation_le_read E now key)
  lt a ha := by
    rcases Machine.armed_of_read ha with hopens | ⟨-, hbefore⟩
    · exact Nat.lt_of_le_of_lt h.le hopens.generation
    · exact h.lt a hbefore

theorem setMode (h : Passed generation m) (mode : Mode) : Passed generation (m.setMode mode) :=
  of_unarmed (Nat.le_trans h.le (m.generation_le_setMode mode)) (Machine.setMode_unarmed mode)

theorem kept : Machine.Kept E now (Passed generation) where
  expire _ g h := h.expire g
  read _ key h := h.read key
  setMode _ mode h := h.setMode mode

end Passed
end ModalKeys
