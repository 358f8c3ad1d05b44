import ModalKeys.Proofs.Loop.Turn
import ModalKeys.Proofs.Machine.Clipboard
import ModalKeys.Replay

/-! A replay never pastes. Its surface has no selection, so there is never a text to keep: the
clipboard stays empty, and what is pasted out of an empty clipboard is nothing. -/
namespace ModalKeys.Replay

/-- Writes to the clipboard of the surface, presses a shortcut with `v`, or reports a text that
waits to be pasted. -/
def Line.Pastes : Line → Prop
  | call (.writeClipboard _) | clipboard _ => True
  | call (.sendKey stroke) => stroke.code = .char 'v'
  | _ => False

/-- The machine after keys that came each at a time. -/
def play (config : Config) (keys : List (Nat × String)) : Machine Tape :=
  keys.foldl (fun m (now, symbol) => feed (editor config) now m symbol) (start config)

/-- A transcript is the tape of keys that come all at one time. -/
theorem transcript_eq_play (config : Config) (text : String) :
    transcript config text =
      (finish (editor config) (play config
        (((Text.lines text.toList).flatMap symbols).map (0, ·)))).editor.reverse := by
  simp only [transcript, play, List.foldl_map]

/-! ## The surface -/

theorem perform_surface (calls : List SurfaceCall) (tape : Tape) :
    SurfaceCall.perform surface calls "" tape = (.ok "", (calls.map .call).reverse ++ tape) := by
  induction calls generalizing tape with
  | nil => rfl
  | cons call calls ih => simp [SurfaceCall.perform, surface, ih]

/-- Every operation is granted with no text and leaves its surface calls on the tape. -/
theorem editor_apply (config : Config) (call : EditorCall) (tape : Tape) :
    editor config call tape =
      (.ok "", ((call.surfaceCalls config.platform.resolve).map .call).reverse ++ tape) :=
  perform_surface _ tape

/-- Only the operation that pastes has surface calls that do. -/
theorem surfaceCalls_pastes {call : EditorCall} (h : ∀ text, call ≠ .pasteText text)
    (platform : Platform) : ∀ c ∈ call.surfaceCalls platform, ¬ (Line.call c).Pastes := by
  cases call with
  | pasteText text => exact absurd rfl (h text)
  | moveCursor d | extendSelection d | moveWord d _ =>
    cases d <;>
      simp [EditorCall.surfaceCalls, SurfaceCall.press, SurfaceCall.chord, Direction.arrow,
        Line.Pastes]
  | _ =>
    cases platform <;>
      simp [EditorCall.surfaceCalls, SurfaceCall.selectLine, SurfaceCall.copySelection,
        SurfaceCall.press, SurfaceCall.chord, Line.Pastes]

/-! ## Actions -/

/-- Nothing to paste, and nothing pasted. -/
structure Unpasted (state : State) (tape : Tape) : Prop where
  clipboard : state.clipboard = ""
  tape : ∀ line ∈ tape, ¬ line.Pastes

namespace Unpasted

variable (config : Config) {w : State × Tape}

theorem extend {state : State} {tape lines : Tape} (h : Unpasted state tape)
    (hlines : ∀ line ∈ lines, ¬ line.Pastes) : Unpasted state (lines ++ tape) where
  clipboard := h.clipboard
  tape := by
    intro line hline
    rcases List.mem_append.mp hline with hnew | hold
    · exact hlines line hnew
    · exact h.tape line hold

/-- A call that does not paste gets no text to do anything with. -/
theorem ask (h : Unpasted w.1 w.2) {c : EditorCall} (hc : ∀ text, c ≠ .pasteText text)
    {f : String → State → State} (hf : (f "" w.1).clipboard = w.1.clipboard) :
    Unpasted (Step.ask (editor config) c f w).2.1 (Step.ask (editor config) c f w).2.2 := by
  simp only [Step.ask, editor_apply]
  refine extend ⟨hf.trans h.clipboard, h.tape⟩ ?_
  simpa using surfaceCalls_pastes hc config.platform.resolve

theorem step (h : Unpasted w.1 w.2) {step : Step} (htidy : step.Tidy) :
    Unpasted (step.run (editor config) w).2.1 (step.run (editor config) w).2.2 := by
  cases step with
  | setMode mode => exact ⟨h.clipboard, h.tape⟩
  | call c => exact h.ask config htidy.2 rfl
  | keep c =>
    have hreads : c.reads = true := htidy
    exact h.ask config (fun text hc => by simp [hc, EditorCall.reads] at hreads) rfl
  | paste =>
    have hempty : w.1.clipboard.isEmpty := by simp [h.clipboard]
    rw [Step.run, if_pos hempty]
    exact h

end Unpasted

/-! ## The session and the notes about it -/

abbrev Pasteless (m : Machine Tape) : Prop := Unpasted m.state m.editor

namespace Pasteless

variable (config : Config) {m : Machine Tape}

theorem perform (h : Pasteless m) (action : Action) :
    Pasteless (m.perform (editor config) action) :=
  Step.runAll_keeps (P := fun w => Unpasted w.1 w.2) (editor config)
    (fun _ hstep _ hw => hw.step config (action.tidy _ hstep)) h

theorem kept (now : Nat) : Machine.Kept (editor config) now Pasteless :=
  .of_perform (fun _ action h => h.perform config action) fun _ _ heditor hclipboard h =>
    ⟨hclipboard.trans h.clipboard, heditor ▸ h.tape⟩

theorem settle (h : Pasteless m) (time : Nat) :
    Pasteless (Loop.settle (editor config) m time) := by
  rw [Loop.settle_eq]
  exact (kept config time).expireDue time h

theorem arrive (h : Pasteless m) (a : Arrival) : Pasteless (Loop.step (editor config) m a) :=
  Loop.handle_keeps (kept config a.time) (h.settle config a.time)

theorem close (h : Pasteless m) : Pasteless (Loop.close (editor config) m) := by
  cases harmed : m.timer.armed with
  | none =>
    rw [Loop.close_unarmed harmed]
    exact h
  | some p =>
    rw [Loop.close_armed harmed]
    exact (kept config 0).expire m p.generation h

theorem note (h : Pasteless m) {line : Line} (hline : ¬ line.Pastes) :
    Pasteless (Replay.note line m) := by
  have hlines : ∀ l ∈ [line], ¬ l.Pastes := by simpa using hline
  exact h.extend hlines

theorem noteModes (h : Pasteless m) (before : State) : Pasteless (Replay.noteModes before m) := by
  refine h.extend fun line hline => ?_
  obtain ⟨mode, -, rfl⟩ := List.mem_map.mp hline
  exact id

theorem start : Pasteless (Replay.start config) := by
  refine note ⟨?_, ?_⟩ id
  · simp only [Machine.ofConfig]
    split <;> rfl
  · simp [Machine.ofConfig]

theorem feed (h : Pasteless m) (now : Nat) (symbol : String) :
    Pasteless (Replay.feed (editor config) now m symbol) := by
  have hsettled := (h.settle config now).noteModes m.state
  have hkey : ¬ (Line.key symbol).Pastes := id
  exact ((hsettled.note hkey).arrive config _).noteModes _

/-- The clipboard is empty at the end, so there is none to report. -/
theorem finish (h : Pasteless m) : Pasteless (Replay.finish (editor config) m) := by
  have hclosed := (h.close config).noteModes m.state
  rw [Replay.finish, if_pos (String.isEmpty_iff.mpr hclosed.clipboard)]
  exact hclosed

theorem play (keys : List (Nat × String)) : Pasteless (Replay.play config keys) := by
  unfold Replay.play
  refine List.foldlRecOn (motive := Pasteless) keys _ (start config) fun m hm key _ => ?_
  exact hm.feed config key.1 key.2

end Pasteless

/-- Whatever the configuration, whatever keys come and whenever they come, the clipboard is empty
after each of them, after each expiry and at the end, and nothing on the tape writes to the
clipboard of the surface, presses a shortcut with `v` or reports a clipboard. So it is in the
transcript of every text. -/
theorem never_pastes (config : Config) (keys : List (Nat × String)) :
    let E := editor config
    let m := play config keys
    m.state.clipboard = "" ∧
      (∀ time, (Loop.settle E m time).state.clipboard = "") ∧
      (finish E m).state.clipboard = "" ∧
      (∀ line ∈ (finish E m).editor, ¬ line.Pastes) ∧
      ∀ text, ∀ line ∈ transcript config text, ¬ line.Pastes := by
  intro E m
  have hm : Pasteless m := .play config keys
  have hfinish := hm.finish config
  refine ⟨hm.clipboard, fun time => (hm.settle config time).clipboard, hfinish.clipboard,
    hfinish.tape, fun text line hline => ?_⟩
  rw [transcript_eq_play, List.mem_reverse] at hline
  exact ((Pasteless.play config _).finish config).tape line hline

/-- Yanking a line reads the selection, and pasting after that does nothing. -/
example : (transcript { startMode := .command } "y y p").drop 3 =
    [.call (.press .home), .call (.chord .endKey .onlyShift), .call .selectedText,
      .call .clearSelection, .key "p"] := by cbv

end ModalKeys.Replay
