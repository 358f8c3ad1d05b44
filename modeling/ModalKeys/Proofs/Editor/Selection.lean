import ModalKeys.Proofs.Editor.Plan
import ModalKeys.Proofs.Machine.Announcement

/-! What becomes of the native selection. On a surface that grants every call, a key that leads out
of visual mode drops the selection, deletes it or pastes over it. Pasting is the exception while
there is nothing to paste: the mode is left and the selection stays. -/
namespace ModalKeys

open SurfaceCall

variable {σ : Type}

/-! ## Where nothing is refused -/

/-- No call is refused. -/
def Device.Grants {Call : Type} (D : Device Call σ) : Prop :=
  ∀ call s, ∃ text, (D call s).1 = .ok text

theorem SurfaceCall.perform_granted {S : Surface σ} (hS : S.Grants) (plan : List SurfaceCall)
    (text : String) (s : σ) : ∃ answer, (perform S plan text s).1 = .ok answer := by
  induction plan generalizing text s with
  | nil => exact ⟨text, rfl⟩
  | cons call plan ih =>
    obtain ⟨had, hgranted⟩ := hS call s
    have hstep : S call s = (.ok had, (S call s).2) := Prod.ext hgranted rfl
    rw [perform, hstep]
    exact ih _ _

theorem Editor.ofSurface_grants (platform : Platform) {S : Surface σ} (hS : S.Grants) :
    Device.Grants (Editor.ofSurface platform S) :=
  fun c s => perform_granted hS (c.surfaceCalls platform) "" s

theorem Device.Grants.logged {Call : Type} {D : Device Call σ} (hD : D.Grants) :
    D.logged.Grants :=
  fun call t => hD call t.1

namespace Step

variable {E : Editor σ} (hE : Device.Grants E)
include hE

theorem ask_granted (c : EditorCall) (f : String → State → State) (w : State × σ) :
    (ask E c f w).1 = .ok () := by
  obtain ⟨text, hgranted⟩ := hE c w.2
  have hstep : E c w.2 = (.ok text, (E c w.2).2) := Prod.ext hgranted rfl
  rw [ask, hstep]

theorem run_granted (step : Step) (w : State × σ) : (step.run E w).1 = .ok () := by
  cases step with
  | setMode mode => rfl
  | call c => exact ask_granted hE c _ w
  | keep c => exact ask_granted hE c _ w
  | paste =>
    simp only [run]
    split
    · rfl
    · exact ask_granted hE _ _ w

theorem runAll_cons_granted (step : Step) (steps : List Step) (w : State × σ) :
    runAll E (step :: steps) w = runAll E steps (step.run E w).2 := by
  have hrun : step.run E w = (.ok (), (step.run E w).2) := Prod.ext (run_granted hE step w) rfl
  rw [runAll, hrun]

theorem runAll_granted (steps : List Step) (w : State × σ) : (runAll E steps w).1 = .ok () := by
  induction steps generalizing w with
  | nil => rfl
  | cons step steps ih =>
    rw [runAll_cons_granted hE]
    exact ih _

/-- All the modes of the steps are set. -/
theorem runAll_granted_announces (steps : List Step) (w : State × σ) :
    w.1.Announces (runAll E steps w).2.1 (steps.filterMap mode?) := by
  induction steps generalizing w with
  | nil => exact .refl w.1
  | cons step steps ih =>
    rw [runAll_cons_granted hE, filterMap_mode?_cons]
    exact (run_announces E step w).trans (ih _)

end Step

/-- Where nothing is refused the whole plan of an action is carried out. -/
theorem Action.run_whole_plan (platform : Platform) {S : Surface σ} (hS : S.Grants) (a : Action)
    (w : State × σ × List Surfaced) :
    ∃ calls : List Surfaced,
      (a.run (Editor.ofSurface platform (Device.logged S)) w).2.2.2 = calls.reverse ++ w.2.2 ∧
      calls.map Prod.fst = a.plan platform w.1.clipboard ∧ ∀ c ∈ calls, ∃ text, c.2 = .ok text := by
  obtain ⟨calls, hlog, hattempt⟩ := a.run_plan platform S w
  have hok : (a.run (Editor.ofSurface platform (Device.logged S)) w).1 = .ok () :=
    Step.runAll_granted (Editor.ofSurface_grants platform hS.logged) a.steps w
  rw [hok] at hattempt
  exact ⟨calls, hlog, hattempt.map_fst_of_ok, fun c hc => hattempt.granted_of_ok hc⟩

/-! ## Leaving visual mode -/

/-- Some of these calls leaves nothing selected: the selection is dropped, deleted, or replaced by
what was just put on the clipboard of the surface. -/
def SurfaceCall.Dispose (platform : Platform) (calls : List SurfaceCall) : Prop :=
  .clearSelection ∈ calls ∨ press .delete ∈ calls ∨
    ∃ text, [.writeClipboard text, chord (.char 'v') platform.primaryModifier] <:+: calls

theorem SurfaceCall.not_dispose_nil (platform : Platform) : ¬ Dispose platform [] := by
  simp [Dispose]

/-- The actions that lead out of visual mode. -/
def Action.LeavesVisual (a : Action) : Prop :=
  a ∈ [exitVisual, yankSelection, deleteSelection, pasteOverSelection]

theorem Action.LeavesVisual.plan_disposes_iff {a : Action} (h : a.LeavesVisual)
    (platform : Platform) (clipboard : String) :
    Dispose platform (a.plan platform clipboard) ↔
      ¬ (a = .pasteOverSelection ∧ clipboard = "") := by
  simp only [LeavesVisual, List.mem_cons, List.not_mem_nil, or_false] at h
  rcases h with rfl | rfl | rfl | rfl
  · exact iff_of_true (.inl (by simp [plan])) (by simp)
  · exact iff_of_true (.inl (by simp [plan])) (by simp)
  · exact iff_of_true (.inr (.inl (by simp [plan]))) (by simp)
  · by_cases hempty : clipboard = ""
    · have hnone : pasteOverSelection.plan platform clipboard = [] := if_pos hempty
      rw [hnone]
      exact iff_of_false (not_dispose_nil platform) (by simp [hempty])
    · have hplan : pasteOverSelection.plan platform clipboard =
          [.writeClipboard clipboard, chord (.char 'v') platform.primaryModifier] := if_neg hempty
      rw [hplan]
      exact iff_of_true (.inr (.inr ⟨clipboard, List.infix_rfl⟩)) (by simp [hempty])

theorem Action.LeavesVisual.modes {a : Action} (h : a.LeavesVisual) : a.modes = [.command] := by
  simp only [LeavesVisual, List.mem_cons, List.not_mem_nil, or_false] at h
  rcases h with rfl | rfl | rfl | rfl <;> rfl

/-- The keys that leave visual mode once their edits are done. -/
def LeavesVisual (key : String) : Prop := isEscape key ∨ key ∈ ["y", "d", "p"]

instance (key : String) : Decidable (LeavesVisual key) :=
  inferInstanceAs (Decidable (isEscape key = true ∨ key ∈ ["y", "d", "p"]))

namespace Machine

theorem expireDue_other (E : Editor σ) (m : Machine σ) (now : Nat)
    (mode : m.state.mode ≠ .command) :
    (m.expireDue E now).2.editor = m.editor ∧
      (m.expireDue E now).2.state.clipboard = m.state.clipboard := by
  rcases m.expireDue_cases E now with ⟨-, he⟩ | ⟨a, -, -, he⟩
  · simp [he]
  · obtain ⟨fired, m', he', h⟩ := m.expire_expires E a.generation
    rw [he, he']
    cases h with
    | stale => exact ⟨rfl, rfl⟩
    | foreign => exact ⟨rfl, rfl⟩
    | fired =>
      rw [lapse, fallBack_other]
      · exact ⟨rfl, rfl⟩
      · exact mode

theorem visualAction?_leaves {key : String} (h : LeavesVisual key) :
    ∃ a, visualAction? key = some a ∧ a.LeavesVisual ∧ (a = .pasteOverSelection ↔ key = "p") := by
  by_cases hescape : isEscape key
  · have hkey : key ≠ "p" := by
      rintro rfl
      exact absurd hescape (by decide)
    exact ⟨.exitVisual, if_pos hescape, by simp [Action.LeavesVisual], by simp [hkey]⟩
  · have hkey : key ∈ ["y", "d", "p"] := h.resolve_left hescape
    simp only [List.mem_cons, List.not_mem_nil, or_false] at hkey
    rcases hkey with rfl | rfl | rfl
    · exact ⟨.yankSelection, rfl, by simp [Action.LeavesVisual], by simp⟩
    · exact ⟨.deleteSelection, rfl, by simp [Action.LeavesVisual], by simp⟩
    · exact ⟨.pasteOverSelection, rfl, by simp [Action.LeavesVisual], by simp⟩

theorem visualAction?_stays {key : String} {a : Action} (h : ¬ LeavesVisual key)
    (ha : visualAction? key = some a) : a.modes = [] := by
  obtain ⟨hescape, hkey⟩ := not_or.mp h
  rw [visualAction?, if_neg hescape] at ha
  exact (Grammar.visual?_modes ha).resolve_right fun hleaves => hkey hleaves.2

theorem carryOut_granted_mode {E : Editor σ} (hE : Device.Grants E) (m : Machine σ)
    (mode : m.state.mode = .visual) (key : String) :
    (m.carryOut E (visualAction? key)).state.mode =
      if LeavesVisual key then .command else .visual := by
  have hperform (a : Action) : m.state.Announces (m.carryOut E (some a)).state a.modes :=
    Step.runAll_granted_announces hE a.steps (m.state, m.editor)
  by_cases h : LeavesVisual key
  · obtain ⟨a, ha, hleaves, -⟩ := visualAction?_leaves h
    rw [ha, if_pos h]
    simpa [hleaves.modes] using (hperform a).mode
  · rw [if_neg h]
    cases ha : visualAction? key with
    | none => exact mode
    | some a => simpa [visualAction?_stays h ha, mode] using (hperform a).mode

theorem carryOut_whole_plan (platform : Platform) {S : Surface σ} (hS : S.Grants)
    (m : Machine (σ × List Surfaced)) (action? : Option Action) :
    ∃ calls : List Surfaced,
      (m.carryOut (Editor.ofSurface platform S.logged) action?).editor.2 =
        calls.reverse ++ m.editor.2 ∧
      calls.map Prod.fst = (action?.map (·.plan platform m.state.clipboard)).getD [] ∧
      ∀ c ∈ calls, ∃ text, c.2 = .ok text := by
  cases action? with
  | none => exact ⟨[], rfl, rfl, by simp⟩
  | some a => exact a.run_whole_plan platform hS (m.state, m.editor)

/-- In visual mode, on a surface that grants everything, escape and the editing keys lead to command
mode, and the other keys leave the mode. Leaving it disposes of the selection, with one exception:
`p` leaves it where it is if there is nothing to paste. It does not matter what has the focus. -/
theorem leaving_visual_disposes (platform : Platform) (S : Surface σ) (hS : S.Grants)
    (m : Machine (σ × List Surfaced)) (mode : m.state.mode = .visual) (now : Nat) (key : String) :
    let E := Editor.ofSurface platform S.logged
    let m' := (m.dispatch E now key).2
    (∀ target, (m.dispatchInput E now ⟨key, target⟩).2 = m') ∧
      m'.state.mode = (if LeavesVisual key then .command else .visual) ∧
      ∃ calls : List Surfaced, m'.editor.2 = calls.reverse ++ m.editor.2 ∧
        (∀ c ∈ calls, ∃ text, c.2 = .ok text) ∧
        (m'.state.mode ≠ .visual →
          (Dispose platform (calls.map Prod.fst) ↔ ¬ (key = "p" ∧ m.state.clipboard = ""))) := by
  intro E m'
  have hvisual : (m.expireDue E now).2.state.mode = .visual := (expireDue_mode E m now).1.trans mode
  have hread : m' = (m.expireDue E now).2.carryOut E (visualAction? key) :=
    congrArg Prod.snd (read_visual E (m.expireDue E now).2 now key hvisual)
  have hmode : m'.state.mode = if LeavesVisual key then .command else .visual :=
    hread ▸ carryOut_granted_mode (Editor.ofSurface_grants platform hS.logged) _ hvisual key
  refine ⟨fun target => ?_, hmode, ?_⟩
  · rw [dispatchInput_eq_dispatch]
    rintro ⟨hinsert, -⟩
    simp [mode] at hinsert
  · obtain ⟨heditor, hclipboard⟩ := expireDue_other E m now (by simp [mode])
    obtain ⟨calls, hlog, hplan, hgranted⟩ :=
      carryOut_whole_plan platform hS (m.expireDue E now).2 (visualAction? key)
    rw [← hread, heditor] at hlog
    refine ⟨calls, hlog, hgranted, fun hne => ?_⟩
    have hleaves : LeavesVisual key := by
      by_contra hstays
      exact hne (hmode.trans (if_neg hstays))
    obtain ⟨a, ha, haction, hpaste⟩ := visualAction?_leaves hleaves
    have hcalls : calls.map Prod.fst = a.plan platform m.state.clipboard := by
      rw [hplan, ha, hclipboard]
      rfl
    rw [hcalls, haction.plan_disposes_iff, hpaste]

/-- Over a selection a text is pasted, although a key was armed before the mode was set. -/
theorem leaving_visual_disposes_paste :
    let S : Surface Nat := fun _ n => (.ok "cd", n + 1)
    let m : Machine (Nat × List Surfaced) :=
      { editor := (0, []), state := { mode := .visual, clipboard := "ab", pending := "d" }
        timer := ({} : PrefixTimer).arm 0 "d" }
    let m' := (m.dispatch (Editor.ofSurface .macOs S.logged) 500 "p").2
    Device.Grants S ∧ m.state.mode = .visual ∧ m'.state.mode = .command ∧ m'.editor.1 = 2 ∧
      ∃ calls : List Surfaced, m'.editor.2 = calls.reverse ++ m.editor.2 ∧
        Dispose .macOs (calls.map Prod.fst) := by
  intro S m m'
  have hS : Device.Grants S := fun _ _ => ⟨"cd", rfl⟩
  obtain ⟨-, hleft, calls, hlog, -, hleaves⟩ := leaving_visual_disposes .macOs S hS m rfl 500 "p"
  have hdisposes := (hleaves (by rw [hleft]; decide)).mpr (by decide)
  exact ⟨hS, rfl, hleft, by decide, calls, hlog, hdisposes⟩

/-- A selection that was extended is still there in command mode: with nothing copied the key asks
the surface for nothing. The deletion that follows hits the selection. -/
theorem leaving_visual_keeps_selection :
    let S : Surface Unit := Device.silent
    let E := Editor.ofSurface .other S.logged
    let x : Moment (Unit × List Surfaced) := ⟨0, { editor := ((), []) }⟩
    let y := x.run E [.setMode .visual, .dispatch "l"]
    let z := y.run E [.dispatch "p"]
    let late := z.run E [.dispatch "d", .advance 500, .dispatch "h"]
    Device.Grants S ∧ x.machine.Idle ∧ y.machine.state.mode = .visual ∧
      z.machine.state.mode = .command ∧ z.machine.editor = y.machine.editor ∧
      ¬ Dispose .other [] ∧
      late.machine.editor.2.map Prod.fst =
        [press .left, press .delete, chord .right .onlyShift] := by
  intro S E x y z late
  exact ⟨fun _ _ => ⟨"", rfl⟩, ⟨rfl, rfl⟩, by decide, by decide, rfl, not_dispose_nil .other,
    by decide⟩

end Machine
end ModalKeys
