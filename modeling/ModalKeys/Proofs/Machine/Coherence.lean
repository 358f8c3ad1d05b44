import ModalKeys.Proofs.Machine.Operation

/-! The slot and the timer tell the same story: a key is armed exactly while it stands in the slot
as the first of a two-key command. No operation of a machine breaks this, whatever the editor
refuses. -/
namespace ModalKeys

variable {σ : Type}

/-- The slot holds nothing, a colon or a prefix key, and the timer runs exactly for the latter. -/
structure Coherent (now : Nat) (m : Machine σ) : Prop where
  slot : m.state.pending ∈ ["", ":", "g", "y", "d"]
  armed_iff : m.timer.armed.isSome ↔ m.state.pending ∈ ["g", "y", "d"]
  live : ∀ a, m.timer.armed = some a → a.key = m.state.pending ∧
    a.generation = m.timer.generation ∧ a.deadline ≤ now + m.timer.timeout

/-- Only command mode has an open slot. -/
def OpenInCommand (m : Machine σ) : Prop := m.state.pending ≠ "" → m.state.mode = .command

namespace Coherent

variable {E : Editor σ} {now time generation : Nat} {m m' : Machine σ} {key : String} {a : Armed}

theorem of_idle (h : m.Idle) : Coherent now m where
  slot := by simp [h.slot]
  armed_iff := by simp [h.slot, h.unarmed]
  live := by simp [h.unarmed]

theorem of_unarmed (hs : m.state.pending = "" ∨ m.state.pending = ":")
    (ha : m.timer.armed = none) : Coherent now m where
  slot := by rcases hs with hs | hs <;> simp [hs]
  armed_iff := by rcases hs with hs | hs <;> simp [hs, ha]
  live := by simp [ha]

/-- Coherence only looks at the slot and the timer. -/
theorem congr (h : Coherent now m) (hs : m'.state.pending = m.state.pending)
    (ht : m'.timer = m.timer) : Coherent now m' where
  slot := by rw [hs]; exact h.slot
  armed_iff := by rw [hs, ht]; exact h.armed_iff
  live := by rw [hs, ht]; exact h.live

theorem mono (h : Coherent now m) (hle : now ≤ time) : Coherent time m where
  slot := h.slot
  armed_iff := h.armed_iff
  live a ha := by
    obtain ⟨hkey, hgen, hdead⟩ := h.live a ha
    exact ⟨hkey, hgen, by omega⟩

theorem key_eq (h : Coherent now m) (ha : m.timer.armed = some a) : m.state.pending = a.key :=
  (h.live a ha).1.symm

theorem expire (h : Coherent now m) : Coherent now (m.expire E generation).2 := by
  obtain ⟨fired, m', he, h'⟩ := m.expire_expires E generation
  rw [he]
  cases h' with
  | stale => exact h
  | foreign armed live slot => exact absurd (h.key_eq armed) slot
  | fired armed live slot => exact of_unarmed (by simp) (by simp)

theorem read (h : Coherent now m) (hle : time ≤ now) :
    Coherent now (m.read E time key).2 := by
  obtain ⟨d, m', hr, h'⟩ := m.read_reads E time key
  rw [hr]
  cases h' with
  | off => exact h
  | colon mode colon => exact of_unarmed (by simp) (by simp)
  | second mode colon slot => exact of_unarmed (by simp [Machine.close]) (by simp [Machine.close])
  | opens mode slot first =>
    have hmem := Grammar.isPrefixKey_iff.mp first
    exact {
      slot := List.mem_of_mem_drop (i := 2) hmem
      armed_iff := by simpa using hmem
      live := by simpa using hle }
  | single mode colon slot first =>
    exact of_unarmed (by simp [Machine.close]) (by simp [Machine.close])
  | escape mode escape => exact h.congr (by simp) (by simp)
  | typed => exact h
  | visual mode => exact h.congr (by simp) (by simp)

theorem setMode (mode : Mode) : Coherent now (m.setMode mode) :=
  of_unarmed (by simp [Machine.setMode]) (by simp [Machine.setMode])

theorem kept : Machine.Kept E now (Coherent now) where
  expire _ _ h := h.expire
  read _ _ h := h.read (Nat.le_refl now)
  setMode _ _ _ := setMode _

theorem apply {x : Moment σ} {op : Operation} (h : Coherent x.time x.machine)
    (hop : op.isWrite = false) : Coherent (x.apply E op).time (x.apply E op).machine := by
  have hsame : Coherent x.time (x.apply E op).machine := by
    refine x.apply_keeps kept (fun _ _ _ hm => hm.congr (by simp) (by simp))
      (fun _ w he => ?_) h
    simp [he, Operation.isWrite] at hop
  exact hsame.mono (x.time_le_apply E op)

end Coherent

namespace OpenInCommand

variable {E : Editor σ} {now generation : Nat} {m : Machine σ} {key : String}

theorem of_empty (h : m.state.pending = "") : OpenInCommand m := fun hp => absurd h hp

theorem slot_empty (h : OpenInCommand m) (mode : m.state.mode ≠ .command) :
    m.state.pending = "" := Classical.byContradiction fun hp => mode (h hp)

theorem expire (h : OpenInCommand m) : OpenInCommand (m.expire E generation).2 := by
  obtain ⟨fired, m', he, h'⟩ := m.expire_expires E generation
  rw [he]
  cases h' with
  | stale => exact h
  | foreign => exact h
  | fired => exact of_empty (by simp)

theorem read (h : OpenInCommand m) : OpenInCommand (m.read E now key).2 := by
  obtain ⟨d, m', hr, h'⟩ := m.read_reads E now key
  rw [hr]
  cases h' with
  | off => exact h
  | colon mode => exact fun _ => mode
  | second => exact of_empty (by simp [Machine.close])
  | opens mode => exact fun _ => mode
  | single => exact of_empty (by simp [Machine.close])
  | escape mode => exact of_empty (by simp [h.slot_empty, mode])
  | typed => exact h
  | visual mode => exact of_empty (by simp [h.slot_empty, mode])

theorem kept : Machine.Kept E now OpenInCommand where
  expire _ _ h := h.expire
  read _ _ h := h.read
  setMode _ _ _ := of_empty rfl

theorem apply {x : Moment σ} {op : Operation} (h : OpenInCommand x.machine)
    (hw : op.isWrite = false) (hp : op.isPerform = false) :
    OpenInCommand (x.apply E op).machine := by
  have hop : op.isOrdinary := by
    cases op with
    | perform action => cases hp
    | write w => cases hw
    | _ => rfl
  exact x.apply_ordinary kept hop h

end OpenInCommand

/-- What holds of a session that is driven through its keys, expiries and outside mode changes. -/
structure Sound (m : Machine σ) : Prop where
  coherent : ∃ now, Coherent now m
  inCommand : OpenInCommand m

namespace Sound

variable {E : Editor σ} {now generation : Nat} {m : Machine σ} {key : String} {a : Armed}

theorem of_idle (h : m.Idle) : Sound m := ⟨⟨0, .of_idle h⟩, .of_empty h.slot⟩

theorem expire (h : Sound m) : Sound (m.expire E generation).2 := by
  obtain ⟨time, hc⟩ := h.coherent
  exact ⟨⟨time, hc.expire⟩, h.inCommand.expire⟩

theorem read (h : Sound m) : Sound (m.read E now key).2 := by
  obtain ⟨time, hc⟩ := h.coherent
  have hlater := hc.mono (Nat.le_max_left time now)
  exact ⟨⟨_, hlater.read (Nat.le_max_right time now)⟩, h.inCommand.read⟩

theorem setMode (mode : Mode) : Sound (m.setMode mode) := ⟨⟨0, .setMode mode⟩, .of_empty rfl⟩

theorem kept : Machine.Kept E now Sound where
  expire _ _ h := h.expire
  read _ _ h := h.read
  setMode _ _ _ := setMode _

/-- The armed key is a prefix key, stands in the slot and was armed last. -/
theorem armed (h : Sound m) (ha : m.timer.armed = some a) :
    a.key ∈ ["g", "y", "d"] ∧ m.state.pending = a.key ∧ a.generation = m.timer.generation := by
  obtain ⟨time, hc⟩ := h.coherent
  obtain ⟨hkey, hgen, -⟩ := hc.live a ha
  have hmem := hc.armed_iff.mp (by simp [ha])
  exact ⟨hkey ▸ hmem, hkey.symm, hgen⟩

theorem expireDue (h : Sound m) : Sound (m.expireDue E now).2 :=
  (kept : Machine.Kept E now Sound).expireDue now h

/-- While a key is armed every other key is read as a command. -/
theorem command (h : Sound m) (ha : m.timer.armed = some a) : m.state.mode = .command := by
  obtain ⟨hmem, hslot, -⟩ := h.armed ha
  refine h.inCommand ?_
  rw [hslot]
  intro hempty
  simp [hempty] at hmem

theorem unarmed (h : Sound m) (mode : m.state.mode ≠ .command) : m.timer.armed = none :=
  Option.eq_none_iff_forall_ne_some.mpr fun _ ha => mode (h.command ha)

theorem slot_of_unarmed (h : Sound m) (ha : m.timer.armed = none) :
    m.state.pending ∈ ["", ":"] := by
  obtain ⟨time, hc⟩ := h.coherent
  have hnot : m.state.pending ∉ ["g", "y", "d"] := by
    intro hmem
    have harmed := hc.armed_iff.mpr hmem
    simp [ha] at harmed
  rcases List.mem_append.mp (show m.state.pending ∈ ["", ":"] ++ ["g", "y", "d"] from hc.slot) with
    hmem | hmem
  · exact hmem
  · exact absurd hmem hnot

end Sound

theorem Machine.kept_timeout (E : Editor σ) (now timeout : Nat) :
    Kept E now (fun m => m.timer.timeout = timeout) where
  expire m generation h := (m.expire_timeout E generation).trans h
  read m key h := (m.read_timeout E now key).trans h
  setMode _ _ h := PrefixTimer.cancel_timeout.trans h

theorem Moment.apply_timeout (E : Editor σ) (x : Moment σ) (op : Operation) :
    (x.apply E op).machine.timer.timeout = x.machine.timer.timeout :=
  x.apply_keeps (Machine.kept_timeout E x.time x.machine.timer.timeout) (by simp) (fun _ _ _ h => h)
    rfl

/-- From a session with nothing open, in any mode and with any timeout, no sequence of operations
parts the slot from the timer, whatever the editor answers. Unless actions are performed behind the
keys, an open slot also means command mode. -/
theorem coherent_of_run (E : Editor σ) (x : Moment σ) (hx : x.machine.Idle)
    (ops : List Operation) (hw : ∀ op ∈ ops, op.isWrite = false) :
    Coherent (x.run E ops).time (x.run E ops).machine ∧
      (x.run E ops).machine.timer.timeout = x.machine.timer.timeout ∧
      ((∀ op ∈ ops, op.isPerform = false) → OpenInCommand (x.run E ops).machine) := by
  refine ⟨?_, ?_, fun hp => ?_⟩
  · exact x.run_keeps (P := fun y => Coherent y.time y.machine) E
      (fun op hop _ hy => hy.apply (hw op hop)) (.of_idle hx)
  · exact x.run_keeps (P := fun y => y.machine.timer.timeout = x.machine.timer.timeout) E
      (fun op _ y hy => (y.apply_timeout E op).trans hy) rfl
  · exact x.run_keeps (P := fun y => OpenInCommand y.machine) E
      (fun op hop _ hy => hy.apply (hw op hop) (hp op hop)) (.of_empty hx.slot)

/-- A late key is read after the overdue one has expired, its refused deletion included, and an
expiry of the old generation does not touch it. -/
theorem coherent_of_run_late_key :
    let x : Moment Unit := ⟨0, { editor := (), state := { mode := .command } }⟩
    let ops : List Operation := [.dispatch "d", .advance 600, .dispatch "y", .expire 1]
    x.machine.Idle ∧ (∀ op ∈ ops, op.isWrite = false) ∧
      (x.run Device.absent ops).machine.timer.armed = some ⟨2, "y", 1100⟩ ∧
      Coherent 600 (x.run Device.absent ops).machine ∧
      OpenInCommand (x.run Device.absent ops).machine := by
  intro x ops
  have hx : x.machine.Idle := ⟨rfl, rfl⟩
  have hw : ∀ op ∈ ops, op.isWrite = false := by decide
  have h := coherent_of_run Device.absent x hx ops hw
  exact ⟨hx, hw, by decide, h.1, h.2.2 (by decide)⟩

end ModalKeys
