import Mathlib.Data.List.Forall2
import ModalKeys.Editor.Keystrokes
import ModalKeys.Proofs.Machine.Simulation

/-! What the platform has to do with a session. It decides which strokes stand for a few editing
operations, and nothing else: on surfaces that do not tell strokes apart, a session on an Apple
system and one elsewhere do the same, call by call. -/
namespace ModalKeys

/-- A stroke of an Apple system and the one that stands for the same elsewhere: strokes held with
nothing but shift are the same, words and shortcuts have other modifiers, and the ends of the
document and redoing have other keys as well. -/
inductive Stroke.Translates : Stroke → Stroke → Prop where
  | plain (code : KeyCode) (shift : Bool) : Translates ⟨code, { shift }⟩ ⟨code, { shift }⟩
  | word (d : Direction) (shift : Bool) :
      Translates ⟨d.arrow, { alt := true, shift }⟩ ⟨d.arrow, { control := true, shift }⟩
  | documentStart : Translates ⟨.up, { super := true }⟩ ⟨.home, { control := true }⟩
  | documentEnd : Translates ⟨.down, { super := true }⟩ ⟨.endKey, { control := true }⟩
  | paste : Translates ⟨.char 'v', { super := true }⟩ ⟨.char 'v', { control := true }⟩
  | undo : Translates ⟨.char 'z', { super := true }⟩ ⟨.char 'z', { control := true }⟩
  | redo : Translates ⟨.char 'z', { super := true, shift := true }⟩
      ⟨.char 'y', { control := true }⟩

namespace Stroke.Translates

variable {s t : Stroke}

theorem hasControl (h : s.Translates t) : s.hasControl = false := by
  cases h <;> rfl

theorem hasAlt (h : s.Translates t) : t.hasAlt = false := by
  cases h <;> rfl

theorem hasMeta (h : s.Translates t) : t.hasMeta = false := by
  cases h <;> rfl

end Stroke.Translates

namespace SurfaceCall

/-- The same call but for the stroke that is sent. -/
inductive Translates : SurfaceCall → SurfaceCall → Prop where
  | sendKey {s t : Stroke} (stroke : s.Translates t) : Translates (.sendKey s) (.sendKey t)
  | selectedText : Translates .selectedText .selectedText
  | clearSelection : Translates .clearSelection .clearSelection
  | blur : Translates .blur .blur
  | writeClipboard (text : String) : Translates (.writeClipboard text) (.writeClipboard text)

/-- What is left of a call once its stroke is forgotten. -/
def withoutStroke : SurfaceCall → Option SurfaceCall
  | sendKey _ => none
  | call => some call

theorem Translates.withoutStroke_eq {call call' : SurfaceCall} (h : call.Translates call') :
    call.withoutStroke = call'.withoutStroke := by
  cases h <;> rfl

theorem Translates.reads_eq {call call' : SurfaceCall} (h : call.Translates call') :
    call.reads = call'.reads := by
  cases h <;> rfl

/-- The stroke that a call sends. -/
def stroke? : SurfaceCall → Option Stroke
  | sendKey stroke => some stroke
  | _ => none

/-- If the call sends a stroke, it is not held with control. -/
def HasNoControl (call : SurfaceCall) : Prop := ∀ stroke ∈ call.stroke?, stroke.hasControl = false

/-- If the call sends a stroke, it is held neither with alt nor with meta. -/
def HasNoAltOrMeta (call : SurfaceCall) : Prop :=
  ∀ stroke ∈ call.stroke?, stroke.hasAlt = false ∧ stroke.hasMeta = false

theorem Translates.hasNoControl {call call' : SurfaceCall} (h : call.Translates call') :
    call.HasNoControl := by
  cases h with
  | sendKey hstroke => simpa [HasNoControl, stroke?] using hstroke.hasControl
  | _ => simp [HasNoControl, stroke?]

theorem Translates.hasNoAltOrMeta {call call' : SurfaceCall} (h : call.Translates call') :
    call'.HasNoAltOrMeta := by
  cases h with
  | sendKey hstroke =>
    simpa [HasNoAltOrMeta, stroke?] using And.intro hstroke.hasAlt hstroke.hasMeta
  | _ => simp [HasNoAltOrMeta, stroke?]

end SurfaceCall

/-- Every editing operation is the same list of calls on both platforms but for the strokes. -/
theorem EditorCall.surfaceCalls_translate (call : EditorCall) :
    List.Forall₂ SurfaceCall.Translates (call.surfaceCalls .macOs)
      (call.surfaceCalls .other) := by
  have hpress (code : KeyCode) : (SurfaceCall.press code).Translates (.press code) :=
    .sendKey (.plain code false)
  have hshift (code : KeyCode) :
      (SurfaceCall.chord code .onlyShift).Translates (.chord code .onlyShift) :=
    .sendKey (.plain code true)
  have hselect : List.Forall₂ SurfaceCall.Translates SurfaceCall.selectLine
      SurfaceCall.selectLine := .cons (hpress _) (.cons (hshift _) .nil)
  have hcopy : List.Forall₂ SurfaceCall.Translates SurfaceCall.copySelection
      SurfaceCall.copySelection := .cons .selectedText (.cons .clearSelection .nil)
  cases call with
  | moveCursor d => exact .cons (hpress _) .nil
  | extendSelection d => exact .cons (hshift _) .nil
  | lineStart => exact .cons (hpress _) .nil
  | lineEnd => exact .cons (hpress _) .nil
  | documentStart => exact .cons (.sendKey .documentStart) .nil
  | documentEnd => exact .cons (.sendKey .documentEnd) .nil
  | moveWord d extend => cases extend <;> exact .cons (.sendKey (.word d _)) .nil
  | deleteAtCursor => exact .cons (hpress _) .nil
  | deleteLine => exact List.rel_append hselect (.cons (hpress _) .nil)
  | deleteSelection => exact .cons (hpress _) .nil
  | selectedText => exact .cons .selectedText .nil
  | yankSelection => exact hcopy
  | yankLine => exact List.rel_append hselect hcopy
  | pasteText text => exact .cons (.writeClipboard text) (.cons (.sendKey .paste) .nil)
  | undo => exact .cons (.sendKey .undo) .nil
  | redo => exact .cons (.sendKey .redo) .nil
  | clearSelection => exact .cons .clearSelection .nil
  | releaseFocus => exact .cons .blur .nil

/-! ## Surfaces that do not tell strokes apart -/

/-- A surface call and what was answered. -/
abbrev Surfaced := SurfaceCall × Except EditorError String

/-- The same call but for its stroke, with the same answer. -/
def Surfaced.Translates (c c' : Surfaced) : Prop := c.1.Translates c'.1 ∧ c.2 = c'.2

/-- The state of a device after some calls. -/
def Device.after {Call σ : Type} (D : Device Call σ) (calls : List Call) (s : σ) : σ :=
  calls.foldl (fun s call => (D call s).2) s

variable {σ : Type}

/-- From this state on, the answers depend on which calls were made and in which order, but not on
the strokes that were sent. -/
def Surface.IgnoresStrokes (S : Surface σ) (s : σ) : Prop :=
  ∀ (past past' : List SurfaceCall) (call call' : SurfaceCall),
    past.map SurfaceCall.withoutStroke = past'.map SurfaceCall.withoutStroke →
      call.withoutStroke = call'.withoutStroke →
        (S call (Device.after S past s)).1 = (S call' (Device.after S past' s)).1

/-- A surface that does the same for every stroke does not tell them apart. -/
theorem Surface.ignoresStrokes_of_eq {S : Surface σ}
    (h : ∀ (call call' : SurfaceCall) (s : σ),
      call.withoutStroke = call'.withoutStroke → S call s = S call' s)
    (s : σ) : Surface.IgnoresStrokes S s := by
  intro past past' call call' hpast hcall
  have hafter : Device.after S past s = Device.after S past' s := by
    induction past generalizing past' s with
    | nil =>
      obtain rfl : past' = [] := List.map_eq_nil_iff.mp hpast.symm
      rfl
    | cons c past ih =>
      obtain ⟨c', later', rfl, hc, hrest⟩ := List.map_eq_cons_iff.mp hpast.symm
      have hsame : S c s = S c' s := h c c' s hc.symm
      simp only [Device.after, List.foldl_cons, hsame]
      exact ih _ later' hrest.symm
  rw [hafter, h call call' _ hcall]

/-! ## Two sessions -/

/-- Two surfaces of one make that have been called alike since they were in this state with this
log. -/
structure CalledInStep (S : Surface σ) (s : σ) (log : List Surfaced)
    (e e' : σ × List Surfaced) : Prop where
  calls : ∃ calls calls' : List Surfaced, List.Forall₂ Surfaced.Translates calls calls' ∧
    e = (Device.after S (calls.map Prod.fst) s, calls.reverse ++ log) ∧
    e' = (Device.after S (calls'.map Prod.fst) s, calls'.reverse ++ log)

namespace CalledInStep

variable {S : Surface σ} {s : σ} {log : List Surfaced} {e e' : σ × List Surfaced}

theorem refl (S : Surface σ) (e : σ × List Surfaced) : CalledInStep S e.1 e.2 e e :=
  ⟨[], [], .nil, rfl, rfl⟩

theorem map_withoutStroke {calls calls' : List Surfaced}
    (h : List.Forall₂ Surfaced.Translates calls calls') :
    (calls.map Prod.fst).map SurfaceCall.withoutStroke =
      (calls'.map Prod.fst).map SurfaceCall.withoutStroke := by
  induction h with
  | nil => rfl
  | cons hcall hrest ih => simp [hcall.1.withoutStroke_eq, ih]

/-- One more call: the answers are the same, and so are the surfaces but for the strokes. -/
theorem call (hS : Surface.IgnoresStrokes S s) (h : CalledInStep S s log e e')
    {call call' : SurfaceCall} (hcall : call.Translates call') :
    (Device.logged S call e).1 = (Device.logged S call' e').1 ∧
      CalledInStep S s log (Device.logged S call e).2 (Device.logged S call' e').2 := by
  obtain ⟨calls, calls', hcalls, rfl, rfl⟩ := h
  have hanswer := hS _ _ call call' (map_withoutStroke hcalls) hcall.withoutStroke_eq
  refine ⟨hanswer, calls ++ [(call, _)], calls' ++ [(call', _)],
    List.rel_append hcalls (.cons ⟨hcall, hanswer⟩ .nil), ?_, ?_⟩
  · simp [Device.logged, Device.after]
  · simp [Device.logged, Device.after]

theorem perform (hS : Surface.IgnoresStrokes S s) {plan plan' : List SurfaceCall}
    (hplan : List.Forall₂ SurfaceCall.Translates plan plan') (text : String)
    (h : CalledInStep S s log e e') :
    (SurfaceCall.perform (Device.logged S) plan text e).1 =
        (SurfaceCall.perform (Device.logged S) plan' text e').1 ∧
      CalledInStep S s log (SurfaceCall.perform (Device.logged S) plan text e).2
        (SurfaceCall.perform (Device.logged S) plan' text e').2 := by
  induction hplan generalizing text e e' with
  | nil => exact ⟨rfl, h⟩
  | @cons c c' plan plan' hcall hrest ih =>
    obtain ⟨hanswer, hnext⟩ := h.call hS hcall
    simp only [SurfaceCall.perform, hcall.reads_eq]
    cases hc : Device.logged S c e with
    | mk answer w =>
      cases hc' : Device.logged S c' e' with
      | mk answer' w' =>
        rw [hc, hc'] at hanswer hnext
        change answer = answer' at hanswer
        rw [← hanswer]
        cases answer with
        | ok had => exact ih _ hnext
        | error e => exact ⟨rfl, hnext⟩

end CalledInStep

/-- On surfaces that do not tell strokes apart, to be called in step is a simulation between the
platforms. -/
def platforms {S : Surface σ} {s : σ} (hS : Surface.IgnoresStrokes S s) (log : List Surfaced) :
    Simulation (Editor.ofSurface .macOs (Device.logged S))
      (Editor.ofSurface .other (Device.logged S)) :=
  .ofEqState (CalledInStep S s log) Eq
    (fun call h => (h.perform hS call.surfaceCalls_translate "").1)
    (fun call h => (h.perform hS call.surfaceCalls_translate "").2)
    (fun h => by rw [h]) (fun h => by rw [h]) fun h => by rw [h]

theorem platforms_apply {S : Surface σ} {s : σ} {hS : Surface.IgnoresStrokes S s}
    {log : List Surfaced} {y y' : Moment (σ × List Surfaced)} (op : Operation)
    (htime : y.time = y'.time) (h : (platforms hS log).Related y.machine y'.machine) :
    let E := Editor.ofSurface .macOs (Device.logged S)
    let F := Editor.ofSurface .other (Device.logged S)
    y.answer E op = y'.answer F op ∧ (y.apply E op).time = (y'.apply F op).time ∧
      (platforms hS log).Related (y.apply E op).machine (y'.apply F op).machine := by
  intro E F
  have htimer : y.machine.timer = y'.machine.timer := h.timer
  have hstate : y.machine.state = y'.machine.state := h.state
  refine Simulation.apply htime h ?_ ?_ ?_ ?_
  · intro t t' key ht
    exact congrArg (PrefixTimer.arm · y.time key) ht
  · intro a a' ha ha'
    rw [htimer, ha'] at ha
    cases ha
    rfl
  · intro generation _
    exact Simulation.expire_generation h (by rw [htimer]) generation
  · intro w _
    exact congrArg (State.write · w) hstate

namespace Moment

/-- Whatever is done to two sessions that differ in nothing but the platform of their editors, on
surfaces whose answers do not depend on strokes: all answers are the same, and so are the clock, the
state with its announcements and the timer after each of the operations. The surfaces get the same
calls with the same answers, each stroke translated; no stroke of an Apple system has control, and
none elsewhere has alt or meta. -/
theorem platform_changes_strokes (S : Surface σ) (x : Moment (σ × List Surfaced))
    (hS : Surface.IgnoresStrokes S x.machine.editor.1) (ops : List Operation) :
    let E := Editor.ofSurface .macOs (Device.logged S)
    let F := Editor.ofSurface .other (Device.logged S)
    let y := x.run E ops
    let y' := x.run F ops
    answers E ops x = answers F ops x ∧ y.time = y'.time ∧
      y.machine.state = y'.machine.state ∧ y.machine.timer = y'.machine.timer ∧
      ∃ calls calls' : List Surfaced,
        y.machine.editor.2 = calls.reverse ++ x.machine.editor.2 ∧
        y'.machine.editor.2 = calls'.reverse ++ x.machine.editor.2 ∧
        List.Forall₂ Surfaced.Translates calls calls' ∧
        (∀ c ∈ calls, c.1.HasNoControl) ∧ ∀ c ∈ calls', c.1.HasNoAltOrMeta := by
  intro E F y y'
  have hstart : (platforms hS x.machine.editor.2).Related x.machine x.machine :=
    ⟨.refl S x.machine.editor, rfl, rfl, rfl⟩
  obtain ⟨hanswers, htime, hrelated⟩ := Simulation.run
    (fun op (_ : op ∈ ops) _ _ htime h => platforms_apply op htime h) (rfl : x.time = x.time) hstart
  obtain ⟨calls, calls', hcalls, hlog, hlog'⟩ := hrelated.editor
  have hcontrol := (List.forall₂_and_left (p := fun c => c.1.HasNoControl) calls calls').mp
    (hcalls.imp fun c c' h => ⟨h.1.hasNoControl, h⟩)
  have hothers := (List.forall₂_and_left (p := fun c => c.1.HasNoAltOrMeta) calls' calls).mp
    (hcalls.flip.imp fun c c' h => ⟨h.1.hasNoAltOrMeta, h⟩)
  exact ⟨hanswers, htime, hrelated.state, hrelated.timer, calls, calls', congrArg Prod.snd hlog,
    congrArg Prod.snd hlog', hcalls, hcontrol.1, hothers.1⟩

/-- A surface with a selection that refuses its sixth call: the first paste fails on both platforms
and sends no stroke, the second has its stroke, and undoing, redoing and moving by words and to the
end of the document have theirs. -/
theorem platform_changes_strokes_refused :
    let S : Surface Nat := fun call n =>
      (if n = 5 then .error .unavailable else .ok (if call.reads then "ab" else ""), n + 1)
    let x : Moment (Nat × List Surfaced) :=
      ⟨0, { editor := (0, []), state := { mode := .command } }⟩
    let ops : List Operation := [.dispatch "w", .dispatch "G", .dispatch "v", .dispatch "b",
      .dispatch "y", .dispatch "p", .dispatch "p", .dispatch "u", .dispatch "."]
    let y := x.run (Editor.ofSurface .macOs (Device.logged S)) ops
    let y' := x.run (Editor.ofSurface .other (Device.logged S)) ops
    Surface.IgnoresStrokes S x.machine.editor.1 ∧ y.machine.state = y'.machine.state ∧
      y'.machine.state.clipboard = "ab" ∧
      (y.machine.editor.2.reverse.filterMap (·.1.stroke?)).map Stroke.text = ["Alt+ArrowRight",
        "Meta+ArrowDown", "Alt+Shift+ArrowLeft", "Meta+v", "Meta+z", "Meta+Shift+z"] ∧
      (y'.machine.editor.2.reverse.filterMap (·.1.stroke?)).map Stroke.text = ["Ctrl+ArrowRight",
        "Ctrl+End", "Ctrl+Shift+ArrowLeft", "Ctrl+v", "Ctrl+z", "Ctrl+y"] := by
  intro S x ops y y'
  have hS : Surface.IgnoresStrokes S x.machine.editor.1 := by
    refine Surface.ignoresStrokes_of_eq (fun call call' s h => ?_) 0
    have hreads : call.reads = call'.reads := by
      cases call <;> cases call' <;> simp_all [SurfaceCall.withoutStroke, SurfaceCall.reads]
    simp only [S, hreads]
  obtain ⟨-, -, hstate, -⟩ := platform_changes_strokes S x hS ops
  exact ⟨hS, hstate, by decide, by decide, by decide⟩

end Moment
end ModalKeys
