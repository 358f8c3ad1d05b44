import ModalKeys.Proofs.Machine.Dispatch

/-! The calls that a session makes. On an editor that keeps a log, every action adds the calls of
its steps, in their order, up to the first that is refused. -/
namespace ModalKeys

/-- A call and what the editor answered. -/
abbrev Answered := EditorCall × Except EditorError String

variable {σ : Type}

/-- Between two machines exactly these calls were made, the first one first. -/
def Machine.Calls (m m' : Machine (σ × List Answered)) (calls : List Answered) : Prop :=
  m'.editor.2 = calls.reverse ++ m.editor.2

namespace Step

variable (E : Editor σ) (w : State × σ × List Answered) {steps : List Step}

/-- The call that a step may make. -/
def Makes (step : Step) (call : EditorCall) : Prop :=
  match step with
  | .setMode _ => False
  | .call c => call = c
  | .keep c => call = c
  | .paste => ∃ text, call = .pasteText text

theorem ask_logged (call : EditorCall) (f : String → State → State) :
    (ask E.logged call f w).2.2.2 = (call, (E call w.2.1).1) :: w.2.2 := by
  unfold ask Device.logged
  cases h : E call w.2.1 with
  | mk answer s => cases answer <;> simp [h]

theorem run_logged (step : Step) :
    ∃ calls : List Answered, (step.run E.logged w).2.2.2 = calls.reverse ++ w.2.2 ∧
      ∀ c ∈ calls, step.Makes c.1 := by
  cases step with
  | setMode mode => exact ⟨[], rfl, by simp⟩
  | call c => exact ⟨[_], ask_logged E w c _, by simp [Makes]⟩
  | keep c => exact ⟨[_], ask_logged E w c _, by simp [Makes]⟩
  | paste =>
    simp only [run]
    split
    · exact ⟨[], rfl, by simp⟩
    · exact ⟨[_], ask_logged E w _ _, by simp [Makes]⟩

theorem runAll_logged :
    ∃ calls : List Answered, (runAll E.logged steps w).2.2.2 = calls.reverse ++ w.2.2 ∧
      ∀ c ∈ calls, ∃ step ∈ steps, step.Makes c.1 := by
  induction steps generalizing w with
  | nil => exact ⟨[], rfl, by simp⟩
  | cons step steps ih =>
    obtain ⟨first, hfirst, hmakes⟩ := run_logged E w step
    simp only [runAll]
    split
    · rename_i w' hrun
      rw [hrun] at hfirst
      change w'.2.2 = _ at hfirst
      obtain ⟨later, hlater, hlaters⟩ := ih w'
      refine ⟨first ++ later, by simp [hlater, hfirst], fun c hc => ?_⟩
      rcases List.mem_append.mp hc with hc | hc
      · exact ⟨step, by simp, hmakes c hc⟩
      · obtain ⟨s, hs, hsc⟩ := hlaters c hc
        exact ⟨s, by simp [hs], hsc⟩
    · rename_i w' hrun
      rw [hrun] at hfirst
      exact ⟨first, hfirst, fun c hc => ⟨step, by simp, hmakes c hc⟩⟩

/-- The step makes just this call. -/
def Asks (step : Step) (call : EditorCall) : Prop := step = .call call ∨ step = .keep call

theorem run_asks {step : Step} {c : EditorCall} (h : step.Asks c) :
    (∃ text w', step.run E.logged w = (.ok (), w') ∧ w'.2.2 = (c, .ok text) :: w.2.2) ∨
      ∃ e w', step.run E.logged w = (.error e, w') ∧ w'.2.2 = (c, .error e) :: w.2.2 := by
  cases hE : E c w.2.1 with
  | mk answer s =>
    cases answer with
    | ok text => rcases h with rfl | rfl <;> simp [run, ask, Device.logged, hE]
    | error e => rcases h with rfl | rfl <;> simp [run, ask, Device.logged, hE]

/-- Setting modes asks nothing of the editor and cannot be refused. -/
theorem runAll_setMode {τ : Type} (F : Editor τ)
    (h : ∀ step ∈ steps, ∃ mode, step = .setMode mode) (v : State × τ) :
    ∃ s, runAll F steps v = (.ok (), s, v.2) := by
  induction steps generalizing v with
  | nil => exact ⟨v.1, rfl⟩
  | cons step steps ih =>
    obtain ⟨mode, rfl⟩ := h step (by simp)
    exact ih (fun s hs => h s (by simp [hs])) (v.1.setMode mode, v.2)

/-- Of two calls in a row the second is made only if the first is granted. -/
theorem runAll_pair {first second : Step} {c d : EditorCall} (hfirst : first.Asks c)
    (hsecond : second.Asks d) (h : ∀ step ∈ steps, ∃ mode, step = .setMode mode) :
    (∃ text answer, (runAll E.logged (first :: second :: steps) w).2.2.2 =
        (d, answer) :: (c, .ok text) :: w.2.2) ∨
      ∃ e, (runAll E.logged (first :: second :: steps) w).2.2.2 = (c, .error e) :: w.2.2 := by
  rcases run_asks E w hfirst with ⟨text, w', hrun, hlog⟩ | ⟨e, w', hrun, hlog⟩
  · left
    rcases run_asks E w' hsecond with ⟨text', w'', hrun', hlog'⟩ | ⟨e, w'', hrun', hlog'⟩
    · obtain ⟨s, hmodes⟩ := runAll_setMode E.logged h w''
      exact ⟨text, .ok text', by simp [runAll, hrun, hrun', hmodes, hlog', hlog]⟩
    · exact ⟨text, .error e, by simp [runAll, hrun, hrun', hlog', hlog]⟩
  · exact .inr ⟨e, by simp [runAll, hrun, hlog]⟩

end Step

/-- One of the steps of the action may make the call. -/
def Action.Can (a : Action) (call : EditorCall) : Prop := ∃ step ∈ a.steps, step.Makes call

namespace Machine

variable (E : Editor σ) {m m' : Machine (σ × List Answered)} {calls : List Answered}

theorem Calls.refl (m : Machine (σ × List Answered)) : m.Calls m [] := rfl

theorem Calls.of_editor_eq (h : m'.editor = m.editor) : m.Calls m' [] := by simp [Calls, h]

/-- What the log holds in the end and did not hold before was called in between. -/
theorem Calls.mem_of_log (call : EditorCall) (h : m.Calls m' calls)
    (hbefore : call ∉ m.editor.2.map Prod.fst) (hafter : call ∈ m'.editor.2.map Prod.fst) :
    ∃ c ∈ calls, c.1 = call := by
  rw [h, List.map_append, List.map_reverse, List.mem_append, List.mem_reverse] at hafter
  rcases hafter with hmem | hmem
  · exact List.mem_map.mp hmem
  · exact absurd hmem hbefore

variable (m)

theorem perform_calls (a : Action) :
    ∃ calls, m.Calls (m.perform E.logged a) calls ∧ ∀ c ∈ calls, a.Can c.1 :=
  Step.runAll_logged E (m.state, m.editor)

theorem carryOut_calls (action? : Option Action) :
    ∃ calls, m.Calls (m.carryOut E.logged action?) calls ∧
      ∀ c ∈ calls, ∃ a, action? = some a ∧ a.Can c.1 := by
  cases action? with
  | none => exact ⟨[], .refl m, by simp⟩
  | some a =>
    obtain ⟨calls, hcalls, hmakes⟩ := perform_calls E m a
    exact ⟨calls, hcalls, fun c hc => ⟨a, rfl, hmakes c hc⟩⟩

theorem perform_single {a : Action} {step : Step} {c : EditorCall} (hsteps : a.steps = [step])
    (hstep : step.Asks c) : ∃ answer, m.Calls (m.perform E.logged a) [(c, answer)] := by
  unfold Calls perform Action.run
  rw [hsteps]
  rcases Step.run_asks E (m.state, m.editor) hstep with ⟨text, w, hrun, hlog⟩ | ⟨e, w, hrun, hlog⟩
  · exact ⟨.ok text, by simp [Step.runAll, hrun, hlog]⟩
  · exact ⟨.error e, by simp [Step.runAll, hrun, hlog]⟩

/-- The selection is yanked only if it could be extended. -/
theorem perform_yankAtCursor :
    (∃ text answer, m.Calls (m.perform E.logged .yankAtCursor)
      [(.extendSelection .right, .ok text), (.yankSelection, answer)]) ∨
    ∃ e, m.Calls (m.perform E.logged .yankAtCursor) [(.extendSelection .right, .error e)] :=
  Step.runAll_pair E (m.state, m.editor) (.inl rfl) (.inr rfl) (by simp)

/-- The selection is deleted only if its text could be had. -/
theorem perform_deleteSelection :
    (∃ text answer, m.Calls (m.perform E.logged .deleteSelection)
      [(.selectedText, .ok text), (.deleteSelection, answer)]) ∨
    ∃ e, m.Calls (m.perform E.logged .deleteSelection) [(.selectedText, .error e)] :=
  Step.runAll_pair E (m.state, m.editor) (.inr rfl) (.inl rfl) (by simp)

/-! ## The calls of an expiry -/

/-- The calls of a key that has stayed alone. -/
def FallbackCalls (key : String) (calls : List Answered) : Prop :=
  match key with
  | "d" => ∃ answer, calls = [(.deleteAtCursor, answer)]
  | "y" =>
    (∃ text answer,
      calls = [(.extendSelection .right, .ok text), (.yankSelection, answer)]) ∨
    ∃ e, calls = [(.extendSelection .right, .error e)]
  | _ => calls = []

theorem fallBack_calls (key : String) (mode : m.state.mode = .command) :
    ∃ calls, m.Calls (m.fallBack E.logged key) calls ∧ FallbackCalls key calls := by
  by_cases hd : key = "d"
  · subst hd
    obtain ⟨answer, h⟩ := perform_single E { m with state.last := "d" }
      (a := .deleteAtCursor) rfl (.inl rfl)
    rw [fallBack_command E.logged "d" mode]
    exact ⟨_, h, answer, rfl⟩
  · by_cases hy : key = "y"
    · subst hy
      rw [fallBack_command E.logged "y" mode]
      rcases perform_yankAtCursor E { m with state.last := "y" } with ⟨text, answer, h⟩ | ⟨e, h⟩
      · exact ⟨_, h, .inl ⟨text, answer, rfl⟩⟩
      · exact ⟨_, h, .inr ⟨e, rfl⟩⟩
    · have hnone : Grammar.fallback? key = none := by
        unfold Grammar.fallback?
        split <;> simp_all
      have hcalls : FallbackCalls key [] := by
        unfold FallbackCalls
        split <;> simp_all
      rw [fallBack_command E.logged key mode, hnone]
      exact ⟨[], .refl m, hcalls⟩

theorem lapse_calls :
    ∃ calls, m.Calls (m.lapse E.logged) calls ∧
      (m.state.mode = .command → FallbackCalls m.state.pending calls) ∧
      (m.state.mode ≠ .command → calls = []) := by
  by_cases mode : m.state.mode = .command
  · obtain ⟨calls, hcalls, hfall⟩ := fallBack_calls E
      { m with timer := m.timer.release, state := m.state.clearPending } m.state.pending mode
    exact ⟨calls, hcalls, fun _ => hfall, fun hne => absurd mode hne⟩
  · refine ⟨[], .of_editor_eq ?_, fun h => absurd h mode, fun _ => rfl⟩
    have hstays := fallBack_other E.logged m.state.pending
      (m := { m with timer := m.timer.release, state := m.state.clearPending }) mode
    rw [lapse, hstays]

/-- An expiry calls the editor only for the armed key, in command mode and with the key still in
the slot. -/
theorem expire_calls (generation : Nat) :
    ∃ calls, m.Calls (m.expire E.logged generation).2 calls ∧ (calls ≠ [] →
      ∃ a, m.timer.armed = some a ∧ a.generation = generation ∧ m.state.pending = a.key ∧
        m.state.mode = .command ∧ FallbackCalls a.key calls) := by
  obtain ⟨fired, m', he, h⟩ := m.expire_expires E.logged generation
  rw [he]
  cases h with
  | stale => exact ⟨[], .refl m, by simp⟩
  | foreign => exact ⟨[], .of_editor_eq rfl, by simp⟩
  | @fired a armed live slot =>
    obtain ⟨calls, hcalls, hcommand, hother⟩ := lapse_calls E m
    refine ⟨calls, hcalls, fun hne => ?_⟩
    by_cases mode : m.state.mode = .command
    · exact ⟨a, armed, live, slot, mode, slot ▸ hcommand mode⟩
    · exact absurd (hother mode) hne

end Machine
end ModalKeys
