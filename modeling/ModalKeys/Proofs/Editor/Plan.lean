import ModalKeys.Proofs.Editor.Platforms
import ModalKeys.Proofs.Machine.Refusal

/-! What a surface is asked to do. Behind a surface every action is a short plan of strokes and
other calls, and what is made of the plan is its beginning up to the first call that is refused. -/
namespace ModalKeys

open SurfaceCall

/-- The surface calls of an action, with this text on the clipboard. -/
def Action.plan (platform : Platform) (clipboard : String) : Action → List SurfaceCall
  | enterMode _ => []
  | exitInsert => [.blur]
  | exitVisual | quit => [.clearSelection]
  | moveCursor d => [press d.arrow]
  | extendSelection d => [chord d.arrow .onlyShift]
  | moveWord d extend =>
    [chord d.arrow (if extend then platform.wordModifier.withShift else platform.wordModifier)]
  | lineStart => [press .home]
  | lineEnd => [press .endKey]
  | documentStart =>
    match platform with
    | .macOs => [chord .up .onlySuper]
    | .other => [chord .home .onlyControl]
  | documentEnd =>
    match platform with
    | .macOs => [chord .down .onlySuper]
    | .other => [chord .endKey .onlyControl]
  | deleteAtCursor => [press .delete]
  | deleteLine => [press .home, chord .endKey .onlyShift, press .backspace]
  | deleteSelection => [.selectedText, press .delete]
  | yankAtCursor => [chord .right .onlyShift, .selectedText, .clearSelection]
  | yankLine => [press .home, chord .endKey .onlyShift, .selectedText, .clearSelection]
  | yankSelection => [.selectedText, .clearSelection]
  | paste | pasteOverSelection =>
    if clipboard = "" then []
    else [.writeClipboard clipboard, chord (.char 'v') platform.primaryModifier]
  | undo => [chord (.char 'z') platform.primaryModifier]
  | redo =>
    match platform with
    | .macOs => [chord (.char 'z') Modifiers.onlySuper.withShift]
    | .other => [chord (.char 'y') .onlyControl]

/-! ## Plans and operations -/

variable {σ : Type} (platform : Platform) (S : Surface σ)

theorem SurfaceCall.perform_attempt (plan : List SurfaceCall) (text : String)
    (t : σ × List Surfaced) :
    ∃ calls, (perform (Device.logged S) plan text t).2.2 = calls.reverse ++ t.2 ∧
      Attempt plan calls ((perform (Device.logged S) plan text t).1.map fun _ => ()) := by
  induction plan generalizing text t with
  | nil => exact ⟨[], rfl, .finished⟩
  | cons call plan ih =>
    obtain ⟨s, log⟩ := t
    simp only [perform, Device.logged]
    cases h : S call s with
    | mk answer s' =>
      cases answer with
      | ok had =>
        obtain ⟨calls, hlog, hattempt⟩ :=
          ih (if call.reads then had else text) (s', (call, .ok had) :: log)
        exact ⟨(call, .ok had) :: calls, by simpa using hlog, .granted call had hattempt⟩
      | error e => exact ⟨[(call, .error e)], rfl, .refused call plan e⟩

theorem Editor.ofSurface_follows :
    Editor.Follows (Editor.ofSurface platform (Device.logged S)) (fun t => t.2)
      (EditorCall.surfaceCalls platform) :=
  fun c t => perform_attempt S (c.surfaceCalls platform) "" t

namespace Action

variable (clipboard : String)

/-- The plan of an action is made of its operations, each with its surface calls. -/
theorem flatMap_surfaceCalls (a : Action) :
    (a.calls clipboard).flatMap (EditorCall.surfaceCalls platform) =
      a.plan platform clipboard := by
  cases a with
  | paste | pasteOverSelection =>
    by_cases h : clipboard = "" <;>
      simp [calls, steps, Step.calls, plan, EditorCall.surfaceCalls, h]
  | _ => cases platform <;> rfl

theorem run_plan (a : Action) (w : State × σ × List Surfaced) :
    ∃ calls, (a.run (Editor.ofSurface platform (Device.logged S)) w).2.2.2 =
        calls.reverse ++ w.2.2 ∧
      Attempt (a.plan platform w.1.clipboard) calls
        (a.run (Editor.ofSurface platform (Device.logged S)) w).1 := by
  rw [← flatMap_surfaceCalls]
  exact a.run_attempt (Editor.ofSurface_follows platform S) w

variable {platform clipboard} {a : Action}

theorem eq_deleteLine_of_backspace (h : press .backspace ∈ a.plan platform clipboard) :
    a = .deleteLine := by
  cases a with
  | deleteLine => rfl
  | moveCursor d | extendSelection d | moveWord d _ =>
    cases d <;> simp [plan, press, chord, Direction.arrow] at h
  | paste | pasteOverSelection =>
    by_cases hc : clipboard = "" <;> simp [plan, hc, press, chord] at h
  | _ => cases platform <;> simp [plan, press, chord] at h

theorem plan_of_pasteChord
    (h : chord (.char 'v') platform.primaryModifier ∈ a.plan platform clipboard) :
    a.plan platform clipboard =
      [.writeClipboard clipboard, chord (.char 'v') platform.primaryModifier] := by
  cases a with
  | moveCursor d | extendSelection d | moveWord d _ =>
    cases d <;> simp [plan, press, chord, Direction.arrow] at h
  | paste | pasteOverSelection =>
    by_cases hc : clipboard = "" <;> simp [plan, hc] at h ⊢
  | _ => cases platform <;> simp [plan, press, chord] at h

/-- What yanking puts on the clipboard comes with the last of its calls. -/
theorem run_yank {E : Editor σ} {w : State × σ}
    (ha : a ∈ [.yankAtCursor, .yankLine, .yankSelection])
    (hkept : (a.run E w).2.1.clipboard ≠ w.1.clipboard) : (a.run E w).1 = .ok () := by
  cases h : (a.run E w).1 with
  | ok _ => rfl
  | error e =>
    have hwrites : Step.WritesLast a.steps := by
      simp only [List.mem_cons, List.not_mem_nil, or_false] at ha
      rcases ha with rfl | rfl | rfl <;> exact Action.writesLast (by decide)
    have hsame := Step.runAll_refused E hwrites h
    exact absurd (congrArg State.clipboard hsame) hkept

end Action

/-- Behind a surface an action makes the calls of its plan, in order, up to the first that the
surface refuses, and that error is the error of the action. So a line is only erased once it has
been selected, the paste shortcut is only pressed once the text is on the clipboard of the surface,
and a yanked text is only kept if nothing was refused. -/
theorem Action.run_cuts_plan (a : Action) (s : State) (t : σ × List Surfaced) :
    let r := a.run (Editor.ofSurface platform (Device.logged S)) (s, t)
    let plan := a.plan platform s.clipboard
    ∃ calls : List Surfaced, r.2.2.2 = calls.reverse ++ t.2 ∧ Attempt plan calls r.1 ∧
      (∀ answer, (press .backspace, answer) ∈ calls →
        LastAfter calls (press .backspace, answer) [press .home, chord .endKey .onlyShift]) ∧
      (∀ answer, (chord (.char 'v') platform.primaryModifier, answer) ∈ calls →
        LastAfter calls (chord (.char 'v') platform.primaryModifier, answer)
          [.writeClipboard s.clipboard]) ∧
      (a ∈ [.yankAtCursor, .yankLine, .yankSelection] → r.2.1.clipboard ≠ s.clipboard →
        calls.map Prod.fst = plan ∧ ∀ c ∈ calls, ∃ text, c.2 = .ok text) := by
  intro r plan
  obtain ⟨calls, hlog, hattempt⟩ := a.run_plan platform S (s, t)
  refine ⟨calls, hlog, hattempt, fun answer hc => ?_, fun answer hc => ?_, fun ha hkept => ?_⟩
  · obtain rfl := eq_deleteLine_of_backspace (hattempt.mem_plan hc)
    have hdelete : Attempt
        ([press .home, chord .endKey .onlyShift] ++ [press .backspace]) calls r.1 := hattempt
    exact hdelete.lastAfter (by simp [press, chord]) hc
  · have hshape := plan_of_pasteChord (hattempt.mem_plan hc)
    have hpaste : Attempt
        ([.writeClipboard s.clipboard] ++ [chord (.char 'v') platform.primaryModifier])
        calls r.1 := by
      rw [List.singleton_append, ← hshape]
      exact hattempt
    exact hpaste.lastAfter (by simp [chord]) hc
  · have hok : r.1 = .ok () := run_yank ha hkept
    have hattempt : Attempt plan calls (.ok ()) := hok ▸ hattempt
    exact ⟨hattempt.map_fst_of_ok, fun c hc => hattempt.granted_of_ok hc⟩

end ModalKeys
