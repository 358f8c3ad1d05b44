import ModalKeys.Proofs.Replay.NoPaste
import ModalKeys.Proofs.Machine.Simulation
import ModalKeys.Proofs.Text.Words

/-! A replay is a session at the words of its text. The lines that tell about modes and keys are
notes beside the session: without them the tape is that of the loop, which gets the same keys at the
same times and is closed after the last one. -/
namespace ModalKeys

/-- The same timer on a clock that is ahead. -/
def PrefixTimer.delay (t : PrefixTimer) (span : Nat) : PrefixTimer :=
  { t with armed := t.armed.map fun a => { a with deadline := a.deadline + span } }

namespace PrefixTimer

variable (t : PrefixTimer) (span : Nat)

theorem delay_armed :
    (t.delay span).armed = t.armed.map fun a => { a with deadline := a.deadline + span } := rfl

theorem delay_release : t.release.delay span = (t.delay span).release := rfl

theorem delay_cancel : t.cancel.delay span = (t.delay span).cancel := by
  cases h : t.armed <;> simp [cancel, delay, h]

theorem delay_arm (now : Nat) (key : String) :
    (t.arm now key).delay span = (t.delay span).arm (now + span) key := by
  simp [arm, delay, Nat.add_right_comm]

end PrefixTimer

namespace Replay

/-- A call of the surface, and no note about the session. -/
def Line.isCall : Line → Bool
  | call _ => true
  | _ => false

/-- The calls on a tape. -/
def calls (tape : Tape) : Tape := tape.filter Line.isCall

theorem calls_append_notes {notes : Tape} (h : ∀ line ∈ notes, line.isCall = false) (tape : Tape) :
    calls (notes ++ tape) = calls tape := by
  have hnone : notes.filter Line.isCall = [] := by simpa using h
  rw [calls, List.filter_append, hnone, List.nil_append, calls]

theorem calls_append_made (made : List SurfaceCall) (tape : Tape) :
    calls ((made.map Line.call).reverse ++ tape) = (made.map Line.call).reverse ++ calls tape := by
  have hall : (made.map Line.call).reverse.filter Line.isCall = (made.map Line.call).reverse := by
    simp [List.filter_eq_self, Line.isCall]
  rw [calls, List.filter_append, hall, calls]

variable (config : Config) (span : Nat)

/-- A session with notes on its tape beside one without, on a clock that is ahead. -/
def unnoted : Simulation (editor config) (editor config) :=
  .ofEqState (fun tape tape' => calls tape = tape') (fun t t' => t.delay span = t')
    (fun call _ => by rw [editor_apply, editor_apply])
    (fun call h => by rw [editor_apply, editor_apply, calls_append_made, h])
    (fun h => by simp [← h, PrefixTimer.delay_armed, Function.comp_def])
    (fun h => by rw [← h, PrefixTimer.delay_release])
    fun h => by rw [← h, PrefixTimer.delay_cancel]

/-- The second machine is the first one without its notes, on its own clock. -/
abbrev Unnoted (m m' : Machine Tape) : Prop := (unnoted config span).Related m m'

namespace Unnoted

variable {config span} {m m' : Machine Tape}

theorem noted (h : Unnoted config span m m') {notes : Tape}
    (hnotes : ∀ line ∈ notes, line.isCall = false) :
    Unnoted config span { m with editor := notes ++ m.editor } m' where
  editor := (calls_append_notes hnotes m.editor).trans h.editor
  state := h.state
  interceptTextFields := h.interceptTextFields
  timer := h.timer

theorem note (h : Unnoted config span m m') {line : Line} (hline : line.isCall = false) :
    Unnoted config span (Replay.note line m) m' := by
  have hnotes : ∀ l ∈ [line], l.isCall = false := by simpa using hline
  exact h.noted hnotes

theorem noteModes (h : Unnoted config span m m') (before : State) :
    Unnoted config span (Replay.noteModes before m) m' := by
  refine h.noted fun line hline => ?_
  obtain ⟨mode, -, rfl⟩ := List.mem_map.mp hline
  rfl

theorem dueAlike (h : Unnoted config span m m') (now : Nat) :
    Simulation.DueAlike now (now + span) m m' := by
  intro a a' ha ha'
  have htimer : m.timer.delay span = m'.timer := h.timer
  rw [← htimer, PrefixTimer.delay_armed, ha, Option.map_some, Option.some.injEq] at ha'
  rw [← ha']
  exact (Nat.add_le_add_iff_right).symm

theorem arms (now : Nat) : (unnoted config span).Arms now (now + span) := by
  intro t t' key ht
  have htimer : t.delay span = t' := ht
  rw [← htimer]
  exact PrefixTimer.delay_arm t span now key

theorem settle (h : Unnoted config span m m') (now : Nat) :
    Unnoted config span (Loop.settle (editor config) m now)
      (Loop.settle (editor config) m' (now + span)) := by
  rw [Loop.settle_eq, Loop.settle_eq]
  exact (Simulation.expireDue h (h.dueAlike now)).machine

theorem arrive (h : Unnoted config span m m') (now : Nat) (input : KeyInput) :
    Unnoted config span (Loop.step (editor config) m ⟨now, some (.key input)⟩)
      (Loop.step (editor config) m' ⟨now + span, some (.key input)⟩) := by
  have hsettled := h.settle now
  exact (Simulation.dispatchInput hsettled (arms now) (hsettled.dueAlike now) input).machine

theorem close (h : Unnoted config span m m') :
    Unnoted config span (Loop.close (editor config) m) (Loop.close (editor config) m') := by
  rcases Simulation.armed_cases h with ⟨ha, ha'⟩ | ⟨a, a', ha, ha', hkey⟩
  · rw [Loop.close_unarmed ha, Loop.close_unarmed ha']
    exact h
  · rw [Loop.close_armed ha, Loop.close_armed ha']
    exact (Simulation.expire h ha ha' hkey).machine

theorem start : Unnoted config span (Replay.start config) (Machine.ofConfig [] config) := by
  have hplain : Unnoted config span (Machine.ofConfig [] config) (Machine.ofConfig [] config) :=
    ⟨rfl, rfl, rfl, rfl⟩
  exact hplain.note rfl

/-- The deadlines that a note was made about are not served again with the key. -/
theorem feed (h : Unnoted config span m m') (now : Nat) (symbol : String) :
    Unnoted config span (Replay.feed (editor config) now m symbol)
      (Loop.step (editor config) m' ⟨now + span, some (.key ⟨symbol, .unknown⟩)⟩) := by
  have hnote : (Line.key symbol).isCall = false := rfl
  have hheard := ((h.settle now).noteModes m.state).note hnote
  have hstep := (hheard.arrive now ⟨symbol, .unknown⟩).noteModes
    (Replay.note (.key symbol) (Replay.noteModes m.state (Loop.settle (editor config) m now))).state
  have htwice : Loop.step (editor config) (Loop.settle (editor config) m' (now + span))
      ⟨now + span, some (.key ⟨symbol, .unknown⟩)⟩ =
        Loop.step (editor config) m' ⟨now + span, some (.key ⟨symbol, .unknown⟩)⟩ := by
    rw [Loop.settle_eq, Loop.step_eq, Loop.step_eq, Machine.expireDue_expireDue (Nat.le_refl _)]
  rw [← htwice]
  exact hstep

theorem finish (h : Unnoted config span m m') :
    Unnoted config span (Replay.finish (editor config) m) (Loop.close (editor config) m') := by
  have hclosed := h.close.noteModes m.state
  rw [Replay.finish]
  split
  · exact hclosed
  · exact hclosed.note rfl

end Unnoted

/-- Keys on their way to the loop. -/
def arrivals (span : Nat) (keys : List (Nat × String)) : List Arrival :=
  keys.map fun key => ⟨key.1 + span, some (.key ⟨key.2, .unknown⟩)⟩

theorem play_unnoted (keys : List (Nat × String)) :
    Unnoted config span (play config keys)
      ((arrivals span keys).foldl (Loop.step (editor config)) (Machine.ofConfig [] config)) := by
  suffices hfold : ∀ {m m' : Machine Tape}, Unnoted config span m m' →
      Unnoted config span (keys.foldl (fun m key => feed (editor config) key.1 m key.2) m)
        ((arrivals span keys).foldl (Loop.step (editor config)) m') from hfold .start
  induction keys with
  | nil => exact fun h => h
  | cons key keys ih => exact fun h => ih (h.feed key.1 key.2)

/-- The calls on the tape at the end are those of the loop. -/
theorem calls_finish_play (keys : List (Nat × String)) :
    calls (finish (editor config) (play config keys)).editor =
      (Loop.run (editor config) (arrivals span keys) (Machine.ofConfig [] config)).editor :=
  (play_unnoted config span keys).finish.editor

theorem prepare_eq {file : Config.File} {platform? : Option String} {loaded : Config}
    {platform : PlatformSetting} (hload : Config.loadOrDefault file = .ok loaded)
    (hplatform : (platform?.map PlatformSetting.parse).getD (.ok loaded.platform) = .ok platform) :
    prepare file platform? = .ok { loaded with
      platform
      startMode := if loaded.startMode = .off then .command else loaded.startMode } := by
  unfold prepare
  rw [hload]
  cases platform? with
  | none =>
    cases hplatform
    rfl
  | some text =>
    rw [Option.map_some, Option.getD_some] at hplatform
    simp only [hplatform]
    rfl

theorem symbols_lines {text : String} {ws : List (List Char)} (h : Text.Worded text.toList ws) :
    (Text.lines text.toList).flatMap symbols = ws.map String.ofList := by
  have hwords := h.words_eq
  rw [← hwords, ← Text.flatMap_words_lines, List.map_flatMap]
  rfl

/-- Every configuration that can be loaded, with its platform overridden or not, is replayed, in
the configured start mode or else in command mode. A text has its words in one way, and cutting it
into lines first makes no difference, with carriage returns at their ends or without. The surface
calls in the transcript are then those of the loop that gets the words as keys, all at one instant,
and is closed. So texts with the same words have the same transcript. -/
theorem transcript_of_words (file : Config.File) (platform? : Option String) (loaded : Config)
    (platform : PlatformSetting) (hload : Config.loadOrDefault file = .ok loaded)
    (hplatform : (platform?.map PlatformSetting.parse).getD (.ok loaded.platform) = .ok platform) :
    let startMode := if loaded.startMode = .off then .command else loaded.startMode
    let config := { loaded with platform, startMode }
    let m : Machine Tape := Machine.ofConfig [] config
    prepare file platform? = .ok config ∧ m.state.mode = startMode ∧
      ∀ text, ∃ ws, (∀ ws', Text.Worded text.toList ws' ↔ ws' = ws) ∧
        ((Text.lines text.toList).map Text.withoutReturn).flatMap Text.words = ws ∧
        (∀ now, (transcript config text).filter Line.isCall =
          (Loop.run (editor config)
            (ws.map fun w => ⟨now, some (.key ⟨String.ofList w, .unknown⟩)⟩) m).editor.reverse) ∧
        ∀ text', Text.Worded text'.toList ws →
          transcript config text' = transcript config text := by
  intro startMode config m
  have hactive : startMode ≠ .off := by
    simp only [startMode]
    split <;> simp_all
  have hprepare : prepare file platform? = .ok config := prepare_eq hload hplatform
  refine ⟨hprepare, ?_, fun text => ?_⟩
  · simp [m, config, Machine.ofConfig, hactive]
  · have hworded : Text.Worded text.toList (Text.words text.toList) := Text.worded_iff.mpr rfl
    refine ⟨Text.words text.toList, fun _ => Text.worded_iff,
      Text.flatMap_words_withoutReturn text.toList, fun now => ?_, fun text' h => ?_⟩
    · have hcalls := calls_finish_play config now
        ((Text.words text.toList).map fun w => (0, String.ofList w))
      rw [transcript_eq_play, symbols_lines hworded, List.map_map, List.filter_reverse]
      simpa [arrivals, Function.comp_def, calls] using congrArg List.reverse hcalls
    · rw [transcript_eq_play, transcript_eq_play, symbols_lines h, symbols_lines hworded]

/-- Both commands are completed across a space that must not break and across an empty line, and the
last key, which stays open, is served in the end. -/
theorem transcript_of_words_lines :
    let config : Config := { platform := .mac, startMode := .command }
    let text := " y\u00a0y\r\n\r\ng\ng d"
    Config.loadOrDefault .missing = .ok {} ∧ PlatformSetting.parse " Mac\n" = .ok .mac ∧
      prepare .missing (some " Mac\n") = .ok config ∧
      (transcript config text).filter Line.isCall =
        [.call (.press .home), .call (.chord .endKey .onlyShift), .call .selectedText,
          .call .clearSelection, .call (.chord .up .onlySuper), .call (.press .delete)] ∧
      transcript config "y y g g d" = transcript config text := by
  intro config text
  have hload : Config.loadOrDefault .missing = .ok {} := rfl
  have hparse : PlatformSetting.parse " Mac\n" = .ok .mac := rfl
  obtain ⟨hprepare, -, hall⟩ := transcript_of_words .missing (some " Mac\n") {} .mac hload hparse
  obtain ⟨ws, -, hcut, hcalls, hsame⟩ := hall text
  have hws : ws = [['y'], ['y'], ['g'], ['g'], ['d']] := hcut.symm.trans (by decide)
  subst hws
  have hspaces : Text.Worded "y y g g d".toList [['y'], ['y'], ['g'], ['g'], ['d']] :=
    Text.worded_iff.mpr (by decide)
  exact ⟨hload, hparse, hprepare, (hcalls 7).trans (by decide), hsame "y y g g d" hspaces⟩

end Replay
end ModalKeys
