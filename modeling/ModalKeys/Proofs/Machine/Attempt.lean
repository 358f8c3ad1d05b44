import ModalKeys.Proofs.Machine.Log

/-! Plans that are cut short. An action stands for a list of calls that are made in order up to the
first that is refused, whose error is that of the action. So it is on every editor, down to the
calls that its operations stand for. -/
namespace ModalKeys

variable {Call σ τ : Type}

/-- The calls of a plan were made in order, each once the one before was granted: all of them, or up
to one that was refused, whose error is the outcome. -/
inductive Attempt : List Call → List (Call × Except EditorError String) →
    Except EditorError Unit → Prop where
  | finished : Attempt [] [] (.ok ())
  | refused (call : Call) (plan : List Call) (e : EditorError) :
      Attempt (call :: plan) [(call, .error e)] (.error e)
  | granted (call : Call) (text : String) {plan : List Call}
      {calls : List (Call × Except EditorError String)} {outcome : Except EditorError Unit}
      (rest : Attempt plan calls outcome) :
      Attempt (call :: plan) ((call, .ok text) :: calls) outcome

namespace Attempt

variable {plan later : List Call} {calls calls' : List (Call × Except EditorError String)}
  {outcome : Except EditorError Unit} {e : EditorError}

theorem append (h : Attempt plan calls (.ok ())) (h' : Attempt later calls' outcome) :
    Attempt (plan ++ later) (calls ++ calls') outcome := by
  induction plan generalizing calls with
  | nil =>
    cases h
    exact h'
  | cons call plan ih =>
    cases h with
    | granted _ text rest => exact .granted call text (ih rest)

theorem append_refused (h : Attempt plan calls (.error e)) (later : List Call) :
    Attempt (plan ++ later) calls (.error e) := by
  induction plan generalizing calls with
  | nil => cases h
  | cons call plan ih =>
    cases h with
    | refused => exact .refused call _ e
    | granted _ text rest => exact .granted call text (ih rest)

/-- What ended well was the whole plan. -/
theorem map_fst_of_ok (h : Attempt plan calls (.ok ())) : calls.map Prod.fst = plan := by
  induction plan generalizing calls with
  | nil =>
    cases h
    rfl
  | cons call plan ih =>
    cases h with
    | granted _ text rest => simp [ih rest]

theorem refused_iff (h : Attempt plan calls outcome) :
    (∃ c ∈ calls, ∃ e, c.2 = .error e) ↔ ∃ e, outcome = .error e := by
  induction h with
  | finished => simp
  | refused => simp
  | granted call text rest ih => simpa using ih

theorem granted_of_ok {c : Call × Except EditorError String} (h : Attempt plan calls (.ok ()))
    (hc : c ∈ calls) : ∃ text, c.2 = .ok text := by
  cases hanswer : c.2 with
  | ok text => exact ⟨text, rfl⟩
  | error e =>
    obtain ⟨_, he⟩ := h.refused_iff.mp ⟨c, hc, e, hanswer⟩
    cases he

theorem mem_plan {c : Call × Except EditorError String} (h : Attempt plan calls outcome)
    (hc : c ∈ calls) : c.1 ∈ plan := by
  induction h with
  | finished => cases hc
  | refused call plan e =>
    rw [List.mem_singleton.mp hc]
    exact List.mem_cons_self
  | granted call text rest ih =>
    rcases List.mem_cons.mp hc with rfl | hc
    · exact List.mem_cons_self
    · exact List.mem_cons_of_mem call (ih hc)

end Attempt

/-- The last call, made when just these had been made and granted. -/
def LastAfter (calls : List (Call × Except EditorError String))
    (c : Call × Except EditorError String) (earlier : List Call) : Prop :=
  ∃ before, calls = before ++ [c] ∧ before.map Prod.fst = earlier ∧
    ∀ b ∈ before, ∃ text, b.2 = .ok text

/-- What a plan ends with is only done once all the rest has been granted. -/
theorem Attempt.lastAfter {plan : List Call} {last : Call} {answer : Except EditorError String}
    {calls : List (Call × Except EditorError String)} {outcome : Except EditorError Unit}
    (h : Attempt (plan ++ [last]) calls outcome) (hlast : last ∉ plan)
    (hc : (last, answer) ∈ calls) : LastAfter calls (last, answer) plan := by
  induction plan generalizing calls with
  | nil =>
    cases h with
    | refused _ _ e =>
      cases List.mem_singleton.mp hc
      exact ⟨[], rfl, rfl, by simp⟩
    | granted _ text rest =>
      cases rest
      cases List.mem_singleton.mp hc
      exact ⟨[], rfl, rfl, by simp⟩
  | cons call plan ih =>
    have hne : last ≠ call := fun he => hlast (he ▸ List.mem_cons_self)
    cases h with
    | refused _ _ e =>
      cases List.mem_singleton.mp hc
      exact absurd rfl hne
    | granted _ text rest =>
      rcases List.mem_cons.mp hc with he | hc
      · exact absurd (congrArg Prod.fst he) hne
      · obtain ⟨before, rfl, rfl, hgranted⟩ :=
          ih rest (fun hmem => hlast (List.mem_cons_of_mem call hmem)) hc
        exact ⟨(call, .ok text) :: before, rfl, rfl, by simpa using hgranted⟩

/-- Every operation of the editor stands for a plan of calls, and a log keeps those that are
made. -/
def Editor.Follows (E : Editor τ) (log : τ → List (Call × Except EditorError String))
    (plan : EditorCall → List Call) : Prop :=
  ∀ (c : EditorCall) (t : τ), ∃ calls, log (E c t).2 = calls.reverse ++ log t ∧
    Attempt (plan c) calls ((E c t).1.map fun _ => ())

theorem Device.logged_follows (E : Editor σ) :
    Editor.Follows E.logged (fun t => t.2) (fun c => [c]) := by
  rintro c ⟨s, log⟩
  refine ⟨[(c, (E c s).1)], rfl, ?_⟩
  simp only [Device.logged]
  cases (E c s).1 with
  | ok text => exact .granted c text .finished
  | error e => exact .refused c [] e

namespace Step

/-- The calls that a step makes, with this text on the clipboard. -/
def calls (clipboard : String) : Step → List EditorCall
  | setMode _ => []
  | call c => [c]
  | keep c => [c]
  | paste => if clipboard.isEmpty then [] else [.pasteText clipboard]

variable {E : Editor τ} {log : τ → List (Call × Except EditorError String)}
  {plan : EditorCall → List Call}

theorem ask_attempt (hE : E.Follows log plan) (c : EditorCall) (f : String → State → State)
    (w : State × τ) :
    ∃ calls, log (ask E c f w).2.2 = calls.reverse ++ log w.2 ∧
      Attempt (plan c) calls (ask E c f w).1 := by
  obtain ⟨calls, hlog, hattempt⟩ := hE c w.2
  unfold ask
  cases h : E c w.2 with
  | mk answer t =>
    rw [h] at hlog hattempt
    cases answer with
    | ok text => exact ⟨calls, hlog, hattempt⟩
    | error e => exact ⟨calls, hlog, hattempt⟩

theorem run_attempt (hE : E.Follows log plan) (step : Step) (w : State × τ) :
    ∃ calls, log (step.run E w).2.2 = calls.reverse ++ log w.2 ∧
      Attempt ((step.calls w.1.clipboard).flatMap plan) calls (step.run E w).1 := by
  cases step with
  | setMode mode => exact ⟨[], rfl, .finished⟩
  | call c => simpa [run, Step.calls] using ask_attempt hE c (fun _ s => s) w
  | keep c => simpa [run, Step.calls] using ask_attempt hE c (fun text s => s.keep text) w
  | paste =>
    simp only [run, Step.calls]
    split
    · exact ⟨[], rfl, .finished⟩
    · simpa using ask_attempt hE (.pasteText w.1.clipboard) (fun _ s => s) w

/-- Only keeping a text changes the clipboard. -/
theorem run_clipboard {step : Step} (h : ∀ c, step ≠ .keep c) (w : State × τ) :
    (step.run E w).2.1.clipboard = w.1.clipboard := by
  cases step with
  | setMode mode => rfl
  | call c => exact ask_state (P := (·.clipboard = w.1.clipboard)) E c (fun _ => rfl) rfl
  | keep c => exact absurd rfl (h c)
  | paste =>
    simp only [run]
    split
    · rfl
    · exact ask_state (P := (·.clipboard = w.1.clipboard)) E _ (fun _ => rfl) rfl

/-- Steps that paste what is on the clipboard before any of them keeps a text make the calls of
their plan up to the first that is refused, and fail with it. -/
theorem runAll_attempt (hE : E.Follows log plan) {steps : List Step} {clipboard : String}
    {w : State × τ}
    (hpaste : .paste ∈ steps → w.1.clipboard = clipboard ∧ ∀ c, .keep c ∉ steps) :
    ∃ calls, log (runAll E steps w).2.2 = calls.reverse ++ log w.2 ∧
      Attempt ((steps.flatMap (Step.calls clipboard)).flatMap plan) calls
        (runAll E steps w).1 := by
  induction steps generalizing w with
  | nil => exact ⟨[], rfl, .finished⟩
  | cons step steps ih =>
    obtain ⟨first, hfirst, hattempt⟩ := run_attempt hE step w
    have hcalls : step.calls w.1.clipboard = step.calls clipboard := by
      cases step with
      | paste => rw [(hpaste (by simp)).1]
      | _ => rfl
    rw [List.flatMap_cons, List.flatMap_append, ← hcalls]
    simp only [runAll]
    cases hrun : step.run E w with
    | mk outcome v =>
      rw [hrun] at hfirst hattempt
      cases outcome with
      | error e => exact ⟨first, hfirst, hattempt.append_refused _⟩
      | ok _ =>
        have hlater : .paste ∈ steps → v.1.clipboard = clipboard ∧ ∀ c, .keep c ∉ steps := by
          intro hmem
          obtain ⟨hclipboard, hkeep⟩ := hpaste (List.mem_cons_of_mem step hmem)
          have hsame : (step.run E w).2.1.clipboard = w.1.clipboard :=
            run_clipboard (fun c he => hkeep c (by simp [he])) w
          rw [hrun] at hsame
          exact ⟨hsame.trans hclipboard, fun c hc => hkeep c (List.mem_cons_of_mem step hc)⟩
        obtain ⟨later, hlog, hrest⟩ := ih hlater
        refine ⟨first ++ later, ?_, hattempt.append hrest⟩
        rw [hlog, hfirst, List.reverse_append, List.append_assoc]

end Step

/-- The calls that an action makes if all are granted, with this text on the clipboard. -/
def Action.calls (a : Action) (clipboard : String) : List EditorCall :=
  a.steps.flatMap (Step.calls clipboard)

theorem Action.run_attempt {E : Editor τ} {log : τ → List (Call × Except EditorError String)}
    {plan : EditorCall → List Call} (hE : E.Follows log plan) (a : Action) (w : State × τ) :
    ∃ calls, log (a.run E w).2.2 = calls.reverse ++ log w.2 ∧
      Attempt ((a.calls w.1.clipboard).flatMap plan) calls (a.run E w).1 := by
  refine Step.runAll_attempt hE fun hmem => ⟨rfl, ?_⟩
  cases a <;> simp_all [Action.steps]

end ModalKeys
