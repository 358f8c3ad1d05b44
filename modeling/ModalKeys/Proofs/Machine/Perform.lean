import ModalKeys.Session.Machine

/-! What an action leaves alone. It can change the mode and the clipboard, and nothing else of a
session but its editor; the mode follows the steps that set one, and each of these is announced. -/
namespace ModalKeys

variable {σ : Type}

namespace State

variable (s : State) (mode : Mode) (text : String)

@[simp] theorem setMode_mode : (s.setMode mode).mode = mode := rfl

@[simp] theorem setMode_pending : (s.setMode mode).pending = s.pending := rfl

@[simp] theorem setMode_last : (s.setMode mode).last = s.last := rfl

@[simp] theorem clearPending_pending : s.clearPending.pending = "" := rfl

@[simp] theorem clearPending_mode : s.clearPending.mode = s.mode := rfl

@[simp] theorem keep_mode : (s.keep text).mode = s.mode := by unfold keep; split <;> rfl

@[simp] theorem keep_announced : (s.keep text).announced = s.announced := by
  unfold keep; split <;> rfl

@[simp] theorem keep_pending : (s.keep text).pending = s.pending := by unfold keep; split <;> rfl

@[simp] theorem keep_last : (s.keep text).last = s.last := by unfold keep; split <;> rfl

theorem hasPending_iff : s.hasPending ↔ s.pending ≠ "" := by simp [hasPending]

/-- From one state to the other these modes were set in this order, and nothing else was
announced. -/
structure Announces (s s' : State) (modes : List Mode) : Prop where
  announced : s'.announced = modes.reverse ++ s.announced
  mode : s'.mode = modes.getLast?.getD s.mode

namespace Announces

variable {s s' s'' : State} {modes later : List Mode}

theorem of_eq (hmode : s'.mode = s.mode) (h : s'.announced = s.announced) : s.Announces s' [] :=
  ⟨h, hmode⟩

theorem refl (s : State) : s.Announces s [] := ⟨rfl, rfl⟩

theorem trans (h : s.Announces s' modes) (h' : s'.Announces s'' later) :
    s.Announces s'' (modes ++ later) where
  announced := by rw [h'.announced, h.announced, List.reverse_append, List.append_assoc]
  mode := by rw [h'.mode, h.mode, List.getLast?_append, Option.getD_or]

theorem congr_left (h : s.Announces s' []) : s.Announces s'' modes ↔ s'.Announces s'' modes := by
  have hannounced : s'.announced = s.announced := h.announced
  have hmode : s'.mode = s.mode := h.mode
  constructor
  · exact fun h' => ⟨hannounced ▸ h'.announced, hmode ▸ h'.mode⟩
  · exact h.trans

end Announces
end State

namespace Step

variable (E : Editor σ) {steps : List Step} {w : State × σ}

theorem ask_state {P : State → Prop} (call : EditorCall) {f : String → State → State}
    (hf : ∀ text, P (f text w.1)) (hw : P w.1) : P (ask E call f w).2.1 := by
  unfold ask
  split
  · exact hf _
  · exact hw

theorem run_state {P : State → Prop} {step : Step}
    (hmode : ∀ mode, step = .setMode mode → P (w.1.setMode mode))
    (hkeep : ∀ text, P (w.1.keep text)) (hw : P w.1) : P (step.run E w).2.1 := by
  cases step with
  | setMode mode => exact hmode mode rfl
  | call c => exact ask_state E c (fun _ => hw) hw
  | keep c => exact ask_state E c hkeep hw
  | paste =>
    simp only [run]
    split
    · exact hw
    · exact ask_state E _ (fun _ => hw) hw

/-- The mode that a step sets. -/
def mode? : Step → Option Mode
  | setMode mode => some mode
  | _ => none

theorem filterMap_mode?_cons (step : Step) (steps : List Step) :
    (step :: steps).filterMap mode? = step.mode?.toList ++ steps.filterMap mode? := by
  cases h : step.mode? <;> simp [h]

theorem run_announces (step : Step) (w : State × σ) :
    w.1.Announces (step.run E w).2.1 step.mode?.toList := by
  have hsame (h : ∀ mode, step ≠ .setMode mode) : w.1.Announces (step.run E w).2.1 [] :=
    run_state (P := (w.1.Announces · [])) E (fun mode he => absurd he (h mode))
      (fun text => .of_eq (by simp) (by simp)) (.refl w.1)
  cases step with
  | setMode mode => exact ⟨rfl, rfl⟩
  | call c => exact hsame (by simp)
  | keep c => exact hsame (by simp)
  | paste => exact hsame (by simp)

theorem runAll_announces (steps : List Step) (w : State × σ) :
    ∃ modes, modes <+: steps.filterMap mode? ∧
      w.1.Announces (runAll E steps w).2.1 modes := by
  induction steps generalizing w with
  | nil => exact ⟨[], List.nil_prefix, .refl w.1⟩
  | cons step steps ih =>
    have hstep := run_announces E step w
    rw [filterMap_mode?_cons]
    simp only [runAll]
    split
    · rename_i w' hrun
      rw [hrun] at hstep
      obtain ⟨modes, hle, hlater⟩ := ih w'
      exact ⟨_, (List.prefix_append_right_inj _).mpr hle, hstep.trans hlater⟩
    · rename_i w' hrun
      rw [hrun] at hstep
      exact ⟨_, List.prefix_append _ _, hstep⟩

/-- Steps run up to a failure keep what each of them keeps. -/
theorem runAll_keeps {P : State × σ → Prop}
    (h : ∀ step ∈ steps, ∀ w, P w → P (step.run E w).2) (hw : P w) :
    P (runAll E steps w).2 := by
  induction steps generalizing w with
  | nil => exact hw
  | cons step steps ih =>
    have hstep : P (step.run E w).2 := h step (by simp) w hw
    simp only [runAll]
    split
    · rename_i w' hrun
      rw [hrun] at hstep
      exact ih (fun s hs => h s (by simp [hs])) hstep
    · rename_i w' hrun
      rw [hrun] at hstep
      exact hstep

end Step

/-- The action has no step that sets a mode. -/
def Action.KeepsMode (a : Action) : Prop := ∀ mode, Step.setMode mode ∉ a.steps

/-- The modes that an action sets if no call is refused before. -/
def Action.modes (a : Action) : List Mode := a.steps.filterMap Step.mode?

theorem Action.KeepsMode.modes {a : Action} (h : a.KeepsMode) : a.modes = [] := by
  refine List.filterMap_eq_nil_iff.mpr fun step hstep => ?_
  cases step with
  | setMode mode => exact absurd hstep (h mode)
  | _ => rfl

namespace Machine

variable (E : Editor σ) (m : Machine σ) (a : Action)

/-- Performs an action if there is one. -/
def carryOut (m : Machine σ) : Option Action → Machine σ
  | some action => m.perform E action
  | none => m

@[simp] theorem perform_timer : (m.perform E a).timer = m.timer := rfl

@[simp] theorem perform_intercept :
    (m.perform E a).interceptTextFields = m.interceptTextFields := rfl

variable {a} in
/-- Performing keeps what its texts and the modes among its steps keep. -/
theorem perform_state {P : State → Prop}
    (hmode : ∀ mode, Step.setMode mode ∈ a.steps → ∀ s, P s → P (s.setMode mode))
    (hkeep : ∀ text s, P s → P (s.keep text)) (hm : P m.state) : P (m.perform E a).state := by
  refine Step.runAll_keeps (P := fun w => P w.1) E (fun step hstep w hw => ?_) hm
  exact Step.run_state E (fun mode he => hmode mode (he ▸ hstep) _ hw)
    (fun text => hkeep text _ hw) hw

@[simp] theorem perform_pending : (m.perform E a).state.pending = m.state.pending :=
  perform_state (P := (·.pending = m.state.pending)) E m (by simp) (by simp) rfl

@[simp] theorem perform_last : (m.perform E a).state.last = m.state.last :=
  perform_state (P := (·.last = m.state.last)) E m (by simp) (by simp) rfl

theorem perform_announces : ∃ modes, modes <+: a.modes ∧
    m.state.Announces (m.perform E a).state modes :=
  Step.runAll_announces E a.steps (m.state, m.editor)

variable {a} in
theorem perform_mode (h : a.KeepsMode) :
    (m.perform E a).state.mode = m.state.mode ∧
      (m.perform E a).state.announced = m.state.announced := by
  obtain ⟨modes, hle, hannounces⟩ := m.perform_announces E a
  rw [h.modes, List.prefix_nil] at hle
  subst hle
  exact ⟨hannounces.mode, hannounces.announced⟩

variable {a} in
/-- An action that begins with its mode sets it whatever is refused later. -/
theorem perform_mode_of_first {mode : Mode} {later : List Step}
    (hsteps : a.steps = .setMode mode :: later) (hlater : later.filterMap Step.mode? = []) :
    (m.perform E a).state.mode = mode := by
  obtain ⟨modes, hle, hannounces⟩ :=
    Step.runAll_announces E later (m.state.setMode mode, m.editor)
  rw [hlater, List.prefix_nil] at hle
  subst hle
  unfold perform Action.run
  rw [hsteps]
  exact hannounces.mode

variable (action? : Option Action)

@[simp] theorem carryOut_timer : (m.carryOut E action?).timer = m.timer := by
  cases action? <;> rfl

@[simp] theorem carryOut_intercept :
    (m.carryOut E action?).interceptTextFields = m.interceptTextFields := by
  cases action? <;> rfl

@[simp] theorem carryOut_pending : (m.carryOut E action?).state.pending = m.state.pending := by
  cases action? <;> simp [carryOut]

@[simp] theorem carryOut_last : (m.carryOut E action?).state.last = m.state.last := by
  cases action? <;> simp [carryOut]

end Machine
end ModalKeys
