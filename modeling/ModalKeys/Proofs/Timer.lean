import ModalKeys.Session.PrefixTimer

/-! What arming, cancelling and taking do to the armed key and to the generation. -/
namespace ModalKeys.PrefixTimer

variable {t : PrefixTimer} {now generation : Nat} {key : String} {a : Armed}

/-- The timer once its armed key has been handed out; the generation stays. -/
def release (t : PrefixTimer) : PrefixTimer := { t with armed := none }

@[simp] theorem release_armed : t.release.armed = none := rfl

@[simp] theorem release_generation : t.release.generation = t.generation := rfl

@[simp] theorem release_timeout : t.release.timeout = t.timeout := rfl

@[simp] theorem arm_armed :
    (t.arm now key).armed = some ⟨t.generation + 1, key, now + t.timeout⟩ := rfl

@[simp] theorem arm_generation : (t.arm now key).generation = t.generation + 1 := rfl

@[simp] theorem arm_timeout : (t.arm now key).timeout = t.timeout := rfl

@[simp] theorem cancel_armed : t.cancel.armed = none := by
  unfold cancel
  split
  · rfl
  · simp_all

@[simp] theorem cancel_timeout : t.cancel.timeout = t.timeout := by
  unfold cancel
  split <;> rfl

theorem generation_le_cancel : t.generation ≤ t.cancel.generation := by
  unfold cancel
  split <;> simp

theorem cancel_of_unarmed (h : t.armed = none) : t.cancel = t := by simp [cancel, h]

theorem cancel_generation_le : t.cancel.generation ≤ t.generation + 1 := by
  unfold cancel
  split <;> simp

theorem take_live (h : t.armed = some a) : t.take a.generation = (some a, t.release) := by
  simp [take, h, release]

theorem take_stale (h : ∀ a, t.armed = some a → a.generation ≠ generation) :
    t.take generation = (none, t) := by
  unfold take
  cases ha : t.armed with
  | none => rfl
  | some a => simp [h a ha]

@[simp] theorem take_generation : (t.take generation).2.generation = t.generation := by
  unfold take
  split
  · split <;> rfl
  · rfl

theorem due?_eq_some_iff : t.due? now = some a ↔ t.armed = some a ∧ a.deadline ≤ now := by
  simp [due?, Option.filter_eq_some_iff]

theorem due?_eq_none_iff :
    t.due? now = none ↔ ∀ a, t.armed = some a → now < a.deadline := by
  simp [due?, Option.filter_eq_none_iff]

end ModalKeys.PrefixTimer
