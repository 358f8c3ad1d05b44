import ModalKeys.Proofs.Machine.Announcement
import ModalKeys.Proofs.Machine.Log

/-! A session without an editor. Every call is refused, so nothing gets onto the clipboard, and the
mode changes only with the keys that ask nothing of the editor. Pasting over the selection is one of
them while there is nothing to paste. -/
namespace ModalKeys

variable {σ : Type}

/-- Every call is refused, as it is before an editor has been found. -/
def Editor.IsMissing (E : Editor σ) : Prop := ∀ call s, (E call s).1 = .error .unavailable

theorem Device.absent_isMissing : Editor.IsMissing (Device.absent : Editor σ) := fun _ _ => rfl

namespace Step

variable {E : Editor σ} (hE : E.IsMissing) (w : State × σ)
include hE

theorem ask_missing (call : EditorCall) (f : String → State → State) :
    ask E call f w = (.error .unavailable, w.1, (E call w.2).2) := by
  have hrefused := hE call w.2
  unfold ask
  split
  · rename_i text editor he
    simp [he] at hrefused
  · rename_i e editor he
    simp only [he] at hrefused
    cases hrefused
    simp [he]

/-- No step but the setting of a mode changes the state. -/
theorem run_missing (step : Step) :
    (step.run E w).2.1 = (step.mode?.map w.1.setMode).getD w.1 := by
  cases step with
  | setMode mode => rfl
  | call c => simp [run, ask_missing hE, mode?]
  | keep c => simp [run, ask_missing hE, mode?]
  | paste =>
    simp only [run]
    split
    · rfl
    · simp [ask_missing hE, mode?]

theorem run_missing_clipboard (step : Step) :
    (step.run E w).2.1.clipboard = w.1.clipboard := by
  rw [run_missing hE w step]
  cases step.mode? <;> rfl

/-- An action that begins with a call ends with it. -/
theorem runAll_missing {step : Step} {c : EditorCall} (h : step.Asks c) (later : List Step) :
    (runAll E (step :: later) w).2.1 = w.1 := by
  rcases h with rfl | rfl <;> simp [runAll, run, ask_missing hE]

/-- What is to be pasted is refused, unless it is nothing. -/
theorem runAll_missing_paste (later : List Step) (h : w.1.clipboard ≠ "") :
    (runAll E (.paste :: later) w).2.1 = w.1 := by
  simp [runAll, run, h, ask_missing hE]

end Step

/-- By what stands in the slot and the mode: the keys that set a mode and ask nothing of the editor
before. -/
def Unasked (slot key : String) : Mode → Prop
  | .off => False
  | .command => key = "i" ∨ key = "v" ∨ slot = ":" ∧ key = "q"
  | .insert | .visual => isEscape key

instance (slot key : String) : (mode : Mode) → Decidable (Unasked slot key mode)
  | .off => inferInstanceAs (Decidable False)
  | .command => inferInstanceAs (Decidable (key = "i" ∨ key = "v" ∨ slot = ":" ∧ key = "q"))
  | .insert | .visual => inferInstanceAs (Decidable (isEscape key = true))

theorem Unasked.of_empty {slot key : String} {mode : Mode} (h : Unasked "" key mode) :
    Unasked slot key mode := by
  cases mode with
  | command =>
    rcases h with h | h | ⟨h, -⟩
    · exact .inl h
    · exact .inr (.inl h)
    · simp at h
  | _ => exact h

/-- An edge that a key goes along unasked, or out of visual mode with an edit. -/
theorem Shift.unasked_or {slot key : String} {mode target : Mode}
    (h : Shift slot key mode target) :
    Unasked slot key mode ∨ mode = .visual ∧ key ∈ ["y", "d", "p"] := by
  cases h with
  | insert => exact .inl (.inl rfl)
  | visual => exact .inl (.inr (.inl rfl))
  | quit => exact .inl (.inr (.inr ⟨rfl, rfl⟩))
  | leaveInsert escape => exact .inl escape
  | leaveVisual leaves =>
    rcases leaves with escape | hkey
    · exact .inl escape
    · exact .inr ⟨rfl, hkey⟩

namespace Machine

section

variable {E : Editor σ} (hE : E.IsMissing) (m : Machine σ) (now : Nat)
include hE

theorem kept_clipboard (text : String) :
    Kept E now (fun m => m.state.clipboard = text) := by
  refine .of_perform (fun m action hm => ?_) (fun m m' _ hclipboard hm => hclipboard.trans hm)
  exact Step.runAll_keeps (P := fun w => w.1.clipboard = text) E
    (fun step _ w hw => (Step.run_missing_clipboard hE w step).trans hw) hm

theorem perform_visual_missing {key : String} {a : Action} (hkey : key ∈ ["y", "d", "p"])
    (ha : visualAction? key = some a) (hpaste : key = "p" → m.state.clipboard ≠ "") :
    (m.perform E a).state = m.state := by
  simp only [List.mem_cons, List.not_mem_nil, or_false] at hkey
  rcases hkey with rfl | rfl | rfl
  · cases ha
    exact Step.runAll_missing hE (m.state, m.editor) (.inr rfl) _
  · cases ha
    exact Step.runAll_missing hE (m.state, m.editor) (.inr rfl) _
  · cases ha
    exact Step.runAll_missing_paste hE (m.state, m.editor) _ (hpaste rfl)

omit hE in
/-- With nothing to paste, visual mode is left and the editor is not asked. -/
theorem perform_pasteOverSelection_empty (h : m.state.clipboard = "") :
    (m.perform E .pasteOverSelection).state = m.state.setMode .command := by
  simp [perform, Action.run, Action.steps, Step.runAll, Step.run, h]

/-- A key that has to ask the editor leaves the mode, and announces nothing; but one key does not
ask in one case. -/
theorem read_missing {key : String} (h : ¬ Unasked m.state.pending key m.state.mode) :
    m.state.Announces (m.read E now key).2.state [] ↔
      ¬ (m.state.mode = .visual ∧ key = "p" ∧ m.state.clipboard = "") := by
  by_cases hp : m.state.mode = .visual ∧ key = "p" ∧ m.state.clipboard = ""
  · obtain ⟨mode, rfl, hempty⟩ := hp
    have hleft : (m.read E now "p").2.state = m.state.setMode .command := by
      rw [read_visual E m now "p" mode]
      exact perform_pasteOverSelection_empty m hempty
    refine iff_of_false (fun hsame => ?_) fun hnot => hnot ⟨mode, rfl, hempty⟩
    have hmode := hsame.mode
    rw [hleft] at hmode
    simp [mode] at hmode
  · refine iff_of_true ?_ hp
    rcases read_shifts E m now key with hsame | ⟨target, hshift, -⟩
    · exact hsame
    · obtain ⟨mode, hkey⟩ := hshift.unasked_or.resolve_left h
      rw [read_visual E m now key mode]
      cases ha : visualAction? key with
      | none => exact .refl m.state
      | some a =>
        have hsame : (m.perform E a).state = m.state :=
          perform_visual_missing hE m hkey ha fun he hempty => hp ⟨mode, he, hempty⟩
        exact .of_eq (congrArg State.mode hsame) (congrArg State.announced hsame)

end

/-- A session without an editor keeps its clipboard, and a key that does not set a mode unasked
keeps the mode and announces nothing, with one exception: in visual mode `p` leads to command mode
if there is nothing to paste. Expiries change neither the mode nor the clipboard. -/
theorem missing_editor_keeps_mode (E : Editor σ) (hE : E.IsMissing) (m : Machine σ) (now : Nat) :
    (∀ key, (m.dispatch E now key).2.state.clipboard = m.state.clipboard ∧
      (¬ Unasked m.state.pending key m.state.mode →
        (m.state.Announces (m.dispatch E now key).2.state [] ↔
          ¬ (m.state.mode = .visual ∧ key = "p" ∧ m.state.clipboard = "")))) ∧
      (∀ generation, (m.expire E generation).2.state.clipboard = m.state.clipboard ∧
        m.state.Announces (m.expire E generation).2.state []) ∧
      (m.expireDue E now).2.state.clipboard = m.state.clipboard ∧
      m.state.Announces (m.expireDue E now).2.state [] := by
  have hkept := kept_clipboard hE now m.state.clipboard
  have hdue : (m.expireDue E now).2.state.clipboard = m.state.clipboard := hkept.expireDue now rfl
  have hannounces := expireDue_announces E m now
  have hmode : (m.expireDue E now).2.state.mode = m.state.mode := hannounces.mode
  refine ⟨fun key => ⟨hkept.dispatch key rfl, fun h => ?_⟩, fun generation =>
    ⟨hkept.expire m generation rfl, expire_announces E m generation⟩, hdue, hannounces⟩
  -- an expiry ahead of the key can empty the slot, which makes no key one that is not asked
  have hlater : ¬ Unasked (m.expireDue E now).2.state.pending key
      (m.expireDue E now).2.state.mode := by
    rw [hmode]
    intro hunasked
    rcases expireDue_pending E m now with hsame | hempty
    · exact h (hsame ▸ hunasked)
    · rw [hempty] at hunasked
      exact h hunasked.of_empty
  have hread := read_missing hE (m.expireDue E now).2 now hlater
  rw [hmode, hdue] at hread
  rw [dispatch_eq_read, ← hread]
  exact hannounces.congr_left

/-- With a text to paste, visual mode is not left, whatever the two deletions before have done to an
editor that counts the calls it refuses. -/
theorem missing_editor_keeps_mode_paste :
    let E : Editor Nat := fun _ n => (.error .unavailable, n + 1)
    let m : Machine Nat :=
      { editor := 2, state := { mode := .visual, clipboard := "ab", announced := [.visual] } }
    E.IsMissing ∧ ¬ Unasked m.state.pending "p" m.state.mode ∧
      (m.dispatch E 700 "p").2.editor = 3 ∧
      (m.dispatch E 700 "p").2.state.clipboard = "ab" ∧
      m.state.Announces (m.dispatch E 700 "p").2.state [] := by
  intro E m
  have hE : E.IsMissing := fun _ _ => rfl
  have hasked : ¬ Unasked m.state.pending "p" m.state.mode := by decide
  obtain ⟨hclipboard, hannounces⟩ := (missing_editor_keeps_mode E hE m 700).1 "p"
  exact ⟨hE, hasked, by decide, hclipboard, (hannounces hasked).mpr (by decide)⟩

/-- With nothing to paste, visual mode is left although there is no editor, and it is announced. -/
theorem missing_editor_changes_mode :
    let E : Editor Unit := Device.absent
    let x : Moment Unit := ⟨0, { editor := () }⟩
    let y := x.run E [.setMode .visual]
    E.IsMissing ∧ x.machine.Idle ∧ y.machine.state.mode = .visual ∧
      ¬ Unasked y.machine.state.pending "p" y.machine.state.mode ∧
      (y.machine.dispatch E y.time "p").2.state.mode = .command ∧
      (y.machine.dispatch E y.time "p").2.state.announced = [.command, .visual] := by
  intro E x y
  exact ⟨Device.absent_isMissing, ⟨rfl, rfl⟩, by decide, by decide, by decide, by decide⟩

end Machine
end ModalKeys
