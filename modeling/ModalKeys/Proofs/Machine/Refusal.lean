import ModalKeys.Proofs.Machine.Attempt

/-! What a refused call leaves behind. An action writes to the state after the last call that can be
refused, so a refused edit leaves the state as it was. The actions that leave a mode do not wait for
the editor; and cutting keeps its text before it deletes. -/
namespace ModalKeys

variable {σ : Type}

namespace Step

/-- Whether the step writes to the state. -/
def writes : Step → Bool
  | setMode _ | keep _ => true
  | call _ | paste => false

/-- No step that can be refused comes after one that writes. -/
def WritesLast : List Step → Prop
  | [] => True
  | step :: steps =>
    (step.writes → ∀ later ∈ steps, ∃ mode, later = setMode mode) ∧ WritesLast steps

variable (E : Editor σ) {steps : List Step} {w : State × σ} {e : EditorError}

theorem run_state_of_not_writes {step : Step} (h : step.writes = false) (w : State × σ) :
    (step.run E w).2.1 = w.1 := by
  cases step with
  | setMode mode => cases h
  | keep c => cases h
  | call c => exact ask_state (P := (· = w.1)) E c (fun _ => rfl) rfl
  | paste =>
    simp only [run]
    split
    · rfl
    · exact ask_state (P := (· = w.1)) E _ (fun _ => rfl) rfl

theorem run_refused {step : Step} (h : (step.run E w).1 = .error e) :
    (step.run E w).2.1 = w.1 := by
  cases step with
  | setMode mode => cases h
  | keep c =>
    simp only [run, ask] at h ⊢
    split at h
    · cases h
    · rfl
  | call c => exact run_state_of_not_writes E rfl w
  | paste => exact run_state_of_not_writes E rfl w

/-- While something can be refused nothing has been written. -/
theorem runAll_refused (h : WritesLast steps) (hfail : (runAll E steps w).1 = .error e) :
    (runAll E steps w).2.1 = w.1 := by
  induction steps generalizing w with
  | nil => rfl
  | cons step steps ih =>
    obtain ⟨hmodes, hlater⟩ := h
    have hrefused (e : EditorError) (he : (step.run E w).1 = .error e) :
        (step.run E w).2.1 = w.1 := run_refused E he
    have hasked (hw : step.writes = false) := run_state_of_not_writes E hw w
    simp only [runAll] at hfail ⊢
    cases hrun : step.run E w with
    | mk outcome v =>
      rw [hrun] at hfail hrefused hasked
      cases outcome with
      | error e' => exact hrefused e' rfl
      | ok _ =>
        cases hw : step.writes with
        | true =>
          obtain ⟨s, hdone⟩ := runAll_setMode E (hmodes hw) v
          cases (congrArg Prod.fst hdone).symm.trans hfail
        | false => exact (ih hlater hfail).trans (hasked hw)

end Step

/-- Leaving a mode comes before the call that may be refused, and cutting keeps its text before the
deletion; all other actions write last. -/
theorem Action.writesLast {a : Action}
    (h : a ∉ [exitInsert, exitVisual, quit, deleteSelection]) : Step.WritesLast a.steps := by
  cases a <;> simp_all [steps, Step.WritesLast, Step.writes]

namespace Machine

variable (E : Editor σ) (m : Machine (σ × List Answered))

/-- Cutting keeps the text once it has it, and then the deletion can still be refused. -/
theorem perform_cut :
    let m' := m.perform E.logged .deleteSelection
    (∃ e, m.Calls m' [(.selectedText, .error e)] ∧ m'.state = m.state) ∨
      (∃ text e, m.Calls m' [(.selectedText, .ok text), (.deleteSelection, .error e)] ∧
        m'.state = m.state.keep text) ∨
      ∃ text answer, m.Calls m' [(.selectedText, .ok text), (.deleteSelection, .ok answer)] ∧
        m'.state = (m.state.keep text).setMode .command := by
  intro m'
  cases hread : E .selectedText m.editor.1 with
  | mk answer s =>
    cases answer with
    | error e =>
      left
      exact ⟨e, by simp [m', Calls, perform, Action.run, Action.steps, Step.runAll, Step.run,
        Step.ask, Device.logged, hread]⟩
    | ok text =>
      right
      cases hdelete : E .deleteSelection s with
      | mk answer t =>
        cases answer with
        | error e =>
          left
          exact ⟨text, e, by simp [m', Calls, perform, Action.run, Action.steps, Step.runAll,
            Step.run, Step.ask, Device.logged, hread, hdelete]⟩
        | ok had =>
          right
          exact ⟨text, had, by simp [m', Calls, perform, Action.run, Action.steps, Step.runAll,
            Step.run, Step.ask, Device.logged, hread, hdelete]⟩

/-- Unless it leaves a mode, an action that has a call refused leaves mode, clipboard, slots and
announcements as they were, whichever call it is and whatever the earlier ones reported, with one
exception: cutting has kept the text of the selection when its deletion is refused. The timer is
never touched. -/
theorem refused_edit_keeps_state (a : Action) (ha : a ∉ [.exitInsert, .exitVisual, .quit]) :
    let m' := m.perform E.logged a
    ∃ calls, m.Calls m' calls ∧ m'.timer = m.timer ∧
      m'.interceptTextFields = m.interceptTextFields ∧
      ((∃ c ∈ calls, ∃ e, c.2 = .error e) → m'.state = m.state ∨
        a = .deleteSelection ∧
          ∃ text e, calls = [(.selectedText, .ok text), (.deleteSelection, .error e)] ∧
            m'.state = m.state.keep text) := by
  intro m'
  by_cases hcut : a = .deleteSelection
  · subst hcut
    rcases perform_cut E m with ⟨e, hcalls, hstate⟩ | ⟨text, e, hcalls, hstate⟩ |
      ⟨text, answer, hcalls, -⟩
    · exact ⟨_, hcalls, rfl, rfl, fun _ => .inl hstate⟩
    · exact ⟨_, hcalls, rfl, rfl, fun _ => .inr ⟨rfl, text, e, rfl, hstate⟩⟩
    · exact ⟨_, hcalls, rfl, rfl, fun hrefused => by simp at hrefused⟩
  · obtain ⟨calls, hcalls, hattempt⟩ :=
      a.run_attempt E.logged_follows (m.state, m.editor)
    refine ⟨calls, hcalls, rfl, rfl, fun hrefused => .inl ?_⟩
    obtain ⟨e, hfail⟩ := hattempt.refused_iff.mp hrefused
    have hwrites : Step.WritesLast a.steps := Action.writesLast (by simp_all)
    exact Step.runAll_refused E.logged hwrites hfail

/-- The character is selected but its text is refused; what was on the clipboard stays there. -/
theorem refused_edit_keeps_state_yank :
    let E : Editor Unit := fun call _ =>
      (if call = .yankSelection then .error (.clipboard "denied") else .ok "ab", ())
    let m : Machine (Unit × List Answered) := { editor := ((), []), state := {
      mode := .command, clipboard := "old", last := "u", announced := [.command] } }
    .yankAtCursor ∉ [Action.exitInsert, .exitVisual, .quit] ∧
      (m.perform E.logged .yankAtCursor).editor.2 =
        [(.yankSelection, .error (.clipboard "denied")), (.extendSelection .right, .ok "ab")] ∧
      (m.perform E.logged .yankAtCursor).state = m.state := by
  intro E m
  have ha : .yankAtCursor ∉ [Action.exitInsert, .exitVisual, .quit] := by decide
  have hlog : (m.perform E.logged .yankAtCursor).editor.2 =
      [(.yankSelection, .error (.clipboard "denied")), (.extendSelection .right, .ok "ab")] := rfl
  obtain ⟨calls, hcalls, -, -, hkeeps⟩ := refused_edit_keeps_state E m .yankAtCursor ha
  have hmade : calls.reverse ++ m.editor.2 =
      [(.yankSelection, .error (.clipboard "denied")), (.extendSelection .right, .ok "ab")] :=
    hcalls.symm.trans hlog
  have hrefused : (.yankSelection, .error (.clipboard "denied")) ∈ calls := by
    rw [← List.mem_reverse, ← List.append_nil calls.reverse]
    exact hmade ▸ List.mem_cons_self
  rcases hkeeps ⟨_, hrefused, _, rfl⟩ with hstate | ⟨hcut, -⟩
  · exact ⟨ha, hlog, hstate⟩
  · cases hcut

/-- A selection is read and its deletion refused: the mode stays, but the clipboard is another. -/
theorem refused_cut_changes_clipboard :
    let E : Editor Unit := fun call _ =>
      (if call = .deleteSelection then .error .unavailable else .ok "ab", ())
    let m : Machine (Unit × List Answered) :=
      { editor := ((), []), state := { mode := .visual, clipboard := "old" } }
    .deleteSelection ∉ [Action.exitInsert, .exitVisual, .quit] ∧
      (m.perform E.logged .deleteSelection).editor.2 =
        [(.deleteSelection, .error .unavailable), (.selectedText, .ok "ab")] ∧
      (m.perform E.logged .deleteSelection).state = { m.state with clipboard := "ab" } := by
  intro E m
  exact ⟨by decide, rfl, rfl⟩

end Machine
end ModalKeys
