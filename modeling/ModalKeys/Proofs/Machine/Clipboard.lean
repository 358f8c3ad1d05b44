import ModalKeys.Proofs.Machine.Log
import ModalKeys.Proofs.Machine.Operation

/-! Where the text on the clipboard comes from. Whatever a session does and whatever its editor
refuses, the clipboard holds the last text that the editor has handed out, and pastes are made of
it. -/
namespace ModalKeys

variable {σ : Type}

/-- The text that a call has handed out, if it hands out texts, was granted and had one. -/
def Answered.text? : Answered → Option String
  | (call, .ok text) => if call.reads ∧ text ≠ "" then some text else none
  | (_, .error _) => none

/-- The text that was handed out last, or the one from before. -/
def lastText (before : String) (calls : List Answered) : String :=
  (calls.filterMap Answered.text?).getLast?.getD before

theorem Answered.text?_ne {c : Answered} {text : String} (h : c.text? = some text) :
    text ≠ "" := by
  obtain ⟨call, answer⟩ := c
  cases answer with
  | ok had =>
    simp only [text?, Option.ite_none_right_eq_some, Option.some.injEq] at h
    obtain ⟨⟨-, hne⟩, rfl⟩ := h
    exact hne
  | error e => cases h

theorem lastText_eq_or (before : String) (calls : List Answered) :
    lastText before calls = before ∨ ∃ c ∈ calls, c.text? = some (lastText before calls) := by
  unfold lastText
  cases h : (calls.filterMap Answered.text?).getLast? with
  | none => exact .inl rfl
  | some text => exact .inr (List.mem_filterMap.mp (List.mem_of_getLast? h))

theorem lastText_append (before : String) (calls later : List Answered) :
    lastText before (calls ++ later) = lastText (lastText before calls) later := by
  simp only [lastText, List.filterMap_append, List.getLast?_append, Option.getD_or]

theorem lastText_singleton (before : String) (c : Answered) :
    lastText before [c] = c.text?.getD before := by
  cases h : c.text? <;> simp [lastText, h]

/-- A clipboard that is fed by these calls: it ends with the text handed out last, and what was
pasted is the text that had been handed out last by then. -/
structure Feeds (before : String) (calls : List Answered) (after : String) : Prop where
  clipboard : after = lastText before calls
  pastes : ∀ earlier text answer later, calls = earlier ++ (.pasteText text, answer) :: later →
    text ≠ "" ∧ text = lastText before earlier

namespace Feeds

variable {before between after : String} {calls later : List Answered}

theorem refl (before : String) : Feeds before [] before where
  clipboard := rfl
  pastes := by simp

theorem trans (h : Feeds before calls between) (h' : Feeds between later after) :
    Feeds before (calls ++ later) after where
  clipboard := by rw [lastText_append, ← h.clipboard, h'.clipboard]
  pastes := by
    intro earlier text answer rest heq
    rcases List.append_eq_append_iff.mp heq with ⟨part, rfl, hlater⟩ | ⟨part, hcalls, hrest⟩
    · rw [lastText_append, ← h.clipboard]
      exact h'.pastes part text answer rest hlater
    · cases part with
      | nil =>
        rw [List.append_nil] at hcalls
        rw [← hcalls, ← h.clipboard]
        exact h'.pastes [] text answer rest hrest.symm
      | cons c part =>
        obtain ⟨rfl, -⟩ := List.cons.inj hrest
        exact h.pastes earlier text answer part hcalls

theorem single {c : Answered} (hafter : after = c.text?.getD before)
    (hpaste : ∀ text, c.1 = .pasteText text → text ≠ "" ∧ text = before) :
    Feeds before [c] after where
  clipboard := by rw [lastText_singleton, hafter]
  pastes := by
    intro earlier text answer later heq
    rcases List.singleton_eq_append_iff.mp heq with ⟨rfl, hc⟩ | ⟨-, hc⟩
    · obtain rfl := (List.cons.inj hc).1
      exact hpaste text rfl
    · cases hc

end Feeds

/-- Between two worlds the clipboard was fed by the calls that were made. -/
def Fed (w w' : State × σ × List Answered) : Prop :=
  ∃ calls : List Answered, w'.2.2 = calls.reverse ++ w.2.2 ∧
    Feeds w.1.clipboard calls w'.1.clipboard

theorem Fed.of_eq {w w' : State × σ × List Answered} (hlog : w'.2.2 = w.2.2)
    (hclipboard : w'.1.clipboard = w.1.clipboard) : Fed w w' :=
  ⟨[], hlog, hclipboard ▸ .refl _⟩

theorem Fed.trans {w w' w'' : State × σ × List Answered} (h : Fed w w') (h' : Fed w' w'') :
    Fed w w'' := by
  obtain ⟨calls, hlog, hfeeds⟩ := h
  obtain ⟨later, hlog', hfeeds'⟩ := h'
  exact ⟨calls ++ later, by simp [hlog', hlog], hfeeds.trans hfeeds'⟩

theorem State.keep_clipboard (s : State) (text : String) :
    (s.keep text).clipboard = if text = "" then s.clipboard else text := by
  simp only [keep, String.isEmpty_iff]
  split <;> rfl

namespace Step

variable (E : Editor σ) (w : State × σ × List Answered)

/-- Texts are kept where the editor hands them out, and only the step that is made for pasting
pastes. -/
def Tidy : Step → Prop
  | call c => c.reads = false ∧ ∀ text, c ≠ .pasteText text
  | keep c => c.reads = true
  | _ => True

theorem ask_fed {c : EditorCall} {f : String → State → State}
    (hkept : ∀ text, (f text w.1).clipboard =
      (Answered.text? (c, .ok text)).getD w.1.clipboard)
    (hpaste : ∀ text, c = .pasteText text → text ≠ "" ∧ text = w.1.clipboard) :
    Fed w (ask E.logged c f w).2 := by
  refine ⟨[_], ask_logged E w c f, .single ?_ hpaste⟩
  unfold ask Device.logged
  cases h : E c w.2.1 with
  | mk answer s =>
    cases answer with
    | ok text => simpa [h] using hkept text
    | error e => simp [h, Answered.text?]

theorem run_fed {step : Step} (h : step.Tidy) : Fed w (step.run E.logged w).2 := by
  cases step with
  | setMode mode => exact .of_eq rfl rfl
  | call c =>
    obtain ⟨hreads, hpaste⟩ := h
    refine ask_fed E w (fun text => ?_) fun text hc => absurd hc (hpaste text)
    simp [Answered.text?, hreads]
  | keep c =>
    have hreads : c.reads = true := h
    refine ask_fed E w (fun text => ?_) fun text hc => ?_
    · rw [State.keep_clipboard]
      by_cases htext : text = "" <;> simp [Answered.text?, hreads, htext]
    · simp [hc, EditorCall.reads] at hreads
  | paste =>
    simp only [run]
    split
    · exact .of_eq rfl rfl
    · rename_i hempty
      refine ask_fed E w (fun text => ?_) fun text hc => ?_
      · simp [Answered.text?, EditorCall.reads]
      · obtain rfl := EditorCall.pasteText.inj hc
        exact ⟨by simpa using hempty, rfl⟩

theorem runAll_fed {steps : List Step} (h : ∀ step ∈ steps, step.Tidy) :
    Fed w (runAll E.logged steps w).2 :=
  runAll_keeps (P := Fed w) E.logged (fun step hstep _ hw => hw.trans (run_fed E _ (h step hstep)))
    (.of_eq rfl rfl)

end Step

theorem Action.tidy (a : Action) : ∀ step ∈ a.steps, step.Tidy := by
  cases a <;> simp [steps, Step.Tidy, EditorCall.reads]

/-! ## Sessions -/

namespace Machine

variable {E : Editor σ} {m₀ m m' : Machine (σ × List Answered)} {now : Nat}

/-- From one machine to the other the clipboard was fed by the calls that were made. -/
def Feeds (m m' : Machine (σ × List Answered)) : Prop :=
  Fed (m.state, m.editor) (m'.state, m'.editor)

namespace Feeds

theorem congr (h : m₀.Feeds m) (heditor : m'.editor = m.editor)
    (hclipboard : m'.state.clipboard = m.state.clipboard) : m₀.Feeds m' :=
  Fed.trans h (.of_eq (congrArg Prod.snd heditor) hclipboard)

theorem perform (h : m₀.Feeds m) (a : Action) : m₀.Feeds (m.perform E.logged a) :=
  Fed.trans h (Step.runAll_fed E (m.state, m.editor) a.tidy)

theorem kept : Kept E.logged now m₀.Feeds :=
  .of_perform (fun _ action h => h.perform action) fun _ _ heditor hclipboard h =>
    h.congr heditor hclipboard

end Feeds
end Machine

/-- Unless a host writes to it, the clipboard holds the last text that the editor has handed out
since the start, or the one from the start while there is none. So it is not emptied and does not
change without such an answer; and each paste that the editor was asked for had a text, which was
the one handed out last by then. -/
theorem Moment.clipboard_of_run (E : Editor σ) (x : Moment (σ × List Answered))
    (ops : List Operation) (hops : ∀ text, .write (.clipboard text) ∉ ops) :
    let before := x.machine.state.clipboard
    let after := (x.run E.logged ops).machine.state.clipboard
    ∃ calls, x.machine.Calls (x.run E.logged ops).machine calls ∧
      after = lastText before calls ∧
      (before ≠ "" → after ≠ "") ∧
      (after ≠ before → ∃ c ∈ calls, c.text? = some after) ∧
      ∀ earlier text answer later, calls = earlier ++ (.pasteText text, answer) :: later →
        text ≠ "" ∧ text = lastText before earlier := by
  intro before after
  have hfeeds : x.machine.Feeds (x.run E.logged ops).machine := by
    refine x.run_keeps (P := fun y => x.machine.Feeds y.machine) E.logged
      (fun op hop y hy => ?_) (.of_eq rfl rfl)
    refine y.apply_keeps Machine.Feeds.kept (fun _ action _ h => h.perform action)
      (fun m w he h => ?_) hy
    cases w with
    | clipboard text => exact absurd (he ▸ hop) (hops text)
    | modeNamed name =>
      refine h.congr rfl ?_
      simp only [State.write, State.setModeNamed]
      split <;> rfl
    | _ => exact h.congr rfl rfl
  obtain ⟨calls, hcalls, hclipboard, hpastes⟩ := hfeeds
  have hsource : after = before ∨ ∃ c ∈ calls, c.text? = some after := by
    have hcases := lastText_eq_or before calls
    rwa [← hclipboard] at hcases
  refine ⟨calls, hcalls, hclipboard, fun hne => ?_, fun hne => ?_, hpastes⟩
  · rcases hsource with hsame | ⟨c, -, hc⟩
    · exact hsame ▸ hne
    · exact Answered.text?_ne hc
  · exact hsource.resolve_left hne

/-- Two texts are yanked and the second is empty, so the first is pasted, once by an editor that
refuses; a later session in another mode still has it. -/
theorem Moment.clipboard_of_run_yanks :
    let E : Editor Bool := fun call second =>
      match call with
      | .yankSelection => (.ok (if second then "" else "ab"), true)
      | .pasteText _ => (.error .unavailable, second)
      | _ => (.ok "", second)
    let x : Moment (Bool × List Answered) :=
      ⟨0, { editor := (false, []), state := { mode := .visual, clipboard := "old" } }⟩
    let ops : List Operation := [.perform .paste, .dispatch "y", .dispatch "v", .dispatch "y",
      .dispatch "y", .advance 500, .expireDue, .setMode .off, .perform .paste]
    (∀ text, .write (.clipboard text) ∉ ops) ∧
      (x.run E.logged ops).machine.editor.2.reverse.map Prod.fst =
        [.pasteText "old", .yankSelection, .yankSelection, .extendSelection .right,
          .yankSelection, .pasteText "ab"] ∧
      (x.run E.logged ops).machine.state.clipboard = "ab" ∧
      ∃ calls, x.machine.Calls (x.run E.logged ops).machine calls ∧
        (x.run E.logged ops).machine.state.clipboard =
          lastText x.machine.state.clipboard calls := by
  intro E x ops
  have hops : ∀ text, .write (.clipboard text) ∉ ops := by simp [ops]
  obtain ⟨calls, hcalls, hclipboard, -⟩ := clipboard_of_run E x ops hops
  exact ⟨hops, by decide, by decide, calls, hcalls, hclipboard⟩

end ModalKeys
