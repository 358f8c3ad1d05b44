import ModalKeys.Proofs.Machine.Coherence

/-! What a host learns about a key. The page gets a key only where the session leaves it alone, and
then nothing at all has happened to the session; a key that waits for its partner is reported as
long as it waits. -/
namespace ModalKeys

variable {σ : Type}

/-- The answer to a key tells what became of it: it is passed through just if it was to be left
alone, and then the machine is as before; and it is pending just if the slot is open. -/
structure Truthful (m : Machine σ) (alone : Prop) (answer : Disposition × Machine σ) : Prop where
  alone_iff : answer.1 = .passThrough ↔ alone
  unchanged : answer.1 = .passThrough → answer.2 = m
  pending_iff : answer.1 = .pending ↔ answer.2.state.pending ≠ ""

namespace Machine

variable {m : Machine σ}

theorem read_truthful (E : Editor σ) (now : Nat) (key : String) (h : OpenInCommand m) :
    Truthful m (m.state.mode = .off ∨ m.state.mode = .insert ∧ ¬ isEscape key)
      (m.read E now key) := by
  obtain ⟨d, m', hr, h'⟩ := m.read_reads E now key
  rw [hr]
  cases h' with
  | off mode =>
    have hempty := h.slot_empty (by simp [mode])
    exact ⟨by simp [mode], fun _ => rfl, by simp [hempty]⟩
  | colon mode => exact ⟨by simp [mode], by simp, by simp⟩
  | second mode => exact ⟨by simp [mode], by simp, by simp [close]⟩
  | opens mode slot first =>
    have hopen : key ≠ "" := by
      rintro rfl
      cases first
    exact ⟨by simp [mode], by simp, by simp [hopen]⟩
  | single mode => exact ⟨by simp [mode], by simp, by simp [close]⟩
  | escape mode escape =>
    have hempty := h.slot_empty (by simp [mode])
    exact ⟨by simp [mode, escape], by simp, by simp [hempty]⟩
  | typed mode escape =>
    have hempty := h.slot_empty (by simp [mode])
    exact ⟨by simp [mode, escape], fun _ => rfl, by simp [hempty]⟩
  | visual mode =>
    have hempty := h.slot_empty (by simp [mode])
    exact ⟨by simp [mode], by simp, by simp [hempty]⟩

/-- The expiry ahead of the key does not spoil the answer: where keys are passed through none is
armed. -/
theorem dispatch_truthful (E : Editor σ) (now : Nat) (key : String) (h : Sound m) :
    Truthful m (m.state.mode = .off ∨ m.state.mode = .insert ∧ ¬ isEscape key)
      (m.dispatch E now key) := by
  have hafter : Sound (m.expireDue E now).2 := h.expireDue
  have hread := read_truthful E now key hafter.inCommand
  rw [(m.expireDue_mode E now).1] at hread
  rw [dispatch_eq_read]
  refine ⟨hread.alone_iff, fun hd => ?_, hread.pending_iff⟩
  have hmode : m.state.mode ≠ .command := by
    rcases hread.alone_iff.mp hd with hoff | ⟨hinsert, -⟩
    · simp [hoff]
    · simp [hinsert]
  have hnone : m.expireDue E now = (false, m) := expireDue_unarmed (h.unarmed hmode)
  rw [hread.unchanged hd, hnone]

/-- The inputs that are passed through. -/
def Ignores (m : Machine σ) (input : KeyInput) : Prop :=
  m.state.mode = .off ∨ m.state.mode = .insert ∧
    (¬ isEscape input.key ∨ input.target = .textField ∧ m.interceptTextFields = false)

theorem dispatchInput_truthful (E : Editor σ) (now : Nat) (input : KeyInput) (h : Sound m) :
    Truthful m (m.Ignores input) (m.dispatchInput E now input) := by
  by_cases hl : m.LeavesAlone input
  · obtain ⟨hmode, hfield⟩ := hl
    have hempty := h.inCommand.slot_empty (by simp [hmode])
    rw [dispatchInput_alone E now ⟨hmode, hfield⟩]
    exact ⟨by simp [Ignores, hmode, hfield], fun _ => rfl, by simp [hempty]⟩
  · have hkey := dispatch_truthful E now input.key h
    rw [dispatchInput_eq_dispatch E now hl]
    refine ⟨hkey.alone_iff.trans ⟨?_, ?_⟩, hkey.unchanged, hkey.pending_iff⟩
    · rintro (hoff | ⟨hinsert, hplain⟩)
      · exact .inl hoff
      · exact .inr ⟨hinsert, .inl hplain⟩
    · rintro (hoff | ⟨hinsert, hplain | hfield⟩)
      · exact .inl hoff
      · exact .inr ⟨hinsert, hplain⟩
      · exact absurd ⟨hinsert, hfield⟩ hl

end Machine

/-- However a session was driven from a start with nothing open: a key is passed through just if
the session is off, or inserts and the key is no escape or belongs to a text field that is not to be
intercepted. Nothing of the machine has changed then, its editor and its announcements included, so
a key that does anything is kept from the page. It is pending just if the slot is open. -/
theorem disposition_of_run (E : Editor σ) (x : Moment σ) (hx : x.machine.Idle)
    (ops : List Operation) (hops : ∀ op ∈ ops, op.isOrdinary) (input : KeyInput) :
    let m := (x.run E ops).machine
    let answer := m.dispatchInput E (x.run E ops).time input
    (answer.1 = .passThrough ↔ m.state.mode = .off ∨ m.state.mode = .insert ∧
        (¬ isEscape input.key ∨ input.target = .textField ∧ m.interceptTextFields = false)) ∧
      (answer.1 = .passThrough → answer.2 = m) ∧
      (answer.2 ≠ m → answer.1.suppresses) ∧
      (answer.1 = .pending ↔ answer.2.state.pending ≠ "") := by
  intro m answer
  have hm : Sound m := x.run_ordinary E (fun _ => Sound.kept) hops (.of_idle hx)
  have hanswer : Truthful m (m.Ignores input) answer :=
    Machine.dispatchInput_truthful E (x.run E ops).time input hm
  refine ⟨hanswer.alone_iff, hanswer.unchanged, fun hne => ?_, hanswer.pending_iff⟩
  have htaken : answer.1 ≠ .passThrough := fun hpass => hne (hanswer.unchanged hpass)
  simpa [Disposition.suppresses] using htaken

/-- The overdue key expires when the next one is typed, which goes to insert mode; there escape is
passed through from a text field. -/
theorem disposition_of_run_text_field :
    let E : Editor (Unit × List (EditorCall × Except EditorError String)) := Device.silent.logged
    let x : Moment (Unit × List (EditorCall × Except EditorError String)) :=
      ⟨0, { editor := ((), []), state := { mode := .command } }⟩
    let ops : List Operation := [.dispatch "d", .advance 600, .dispatch "i", .expire 1]
    let y := x.run E ops
    let answer := y.machine.dispatchInput E y.time ⟨"Escape", .textField⟩
    x.machine.Idle ∧ (∀ op ∈ ops, op.isOrdinary) ∧ y.machine.state.mode = .insert ∧
      y.machine.editor.2.map Prod.fst = [.deleteAtCursor] ∧
      answer.1 = .passThrough ∧ answer.2 = y.machine := by
  intro E x ops y answer
  have hx : x.machine.Idle := ⟨rfl, rfl⟩
  have hops : ∀ op ∈ ops, op.isOrdinary := by decide
  have hmode : (x.run E ops).machine.state.mode = .insert := by decide
  have hfield : (x.run E ops).machine.interceptTextFields = false := by decide
  obtain ⟨hpass, hsame, -⟩ := disposition_of_run E x hx ops hops ⟨"Escape", .textField⟩
  have hanswer := hpass.mpr (.inr ⟨hmode, .inr ⟨rfl, hfield⟩⟩)
  exact ⟨hx, hops, by decide, by decide, hanswer, hsame hanswer⟩

end ModalKeys
