import ModalKeys.Proofs.Machine.Log
import ModalKeys.Proofs.Machine.Simulation

/-! What a mode set from outside leaves of the past. Two sessions with different pasts that are put
into the same mode are told apart by nothing but their generations, what they announced before, and
the key that was last read. -/
namespace ModalKeys

variable {σ : Type}

/-- The same key is armed until the same time; the generations may differ. -/
structure PrefixTimer.SameKey (t t' : PrefixTimer) : Prop where
  timeout : t.timeout = t'.timeout
  armed : t.armed.map (fun a => (a.key, a.deadline)) =
    t'.armed.map fun a => (a.key, a.deadline)

namespace PrefixTimer.SameKey

variable {t t' : PrefixTimer}

theorem key_eq (h : t.SameKey t') : t.armed.map (·.key) = t'.armed.map (·.key) := by
  simpa [Function.comp_def] using congrArg (Option.map Prod.fst) h.armed

theorem deadline_eq (h : t.SameKey t') :
    t.armed.map (·.deadline) = t'.armed.map (·.deadline) := by
  simpa [Function.comp_def] using congrArg (Option.map Prod.snd) h.armed

theorem of_unarmed (ht : t.timeout = t'.timeout) (h : t.armed = none) (h' : t'.armed = none) :
    t.SameKey t' := ⟨ht, by rw [h, h']⟩

theorem release (h : t.SameKey t') : t.release.SameKey t'.release := ⟨h.timeout, rfl⟩

theorem cancel (h : t.SameKey t') : t.cancel.SameKey t'.cancel :=
  of_unarmed (by simp [h.timeout]) cancel_armed cancel_armed

theorem arm (h : t.SameKey t') (now : Nat) (key : String) :
    (t.arm now key).SameKey (t'.arm now key) := by
  have htimeout := h.timeout
  exact ⟨htimeout, by simp [htimeout]⟩

end PrefixTimer.SameKey

/-- States that are read alike. Since the keys last read were these, the same key has been written
over both of them, or neither has been touched. -/
structure State.AlikeSince (last last' : String) (s s' : State) : Prop where
  mode : s.mode = s'.mode
  clipboard : s.clipboard = s'.clipboard
  pending : s.pending = s'.pending
  last : ∃ written : Option String, s.last = written.getD last ∧ s'.last = written.getD last'

namespace State.AlikeSince

variable {last last' : String} {s s' : State}

theorem setMode (h : AlikeSince last last' s s') (mode : Mode) :
    AlikeSince last last' (s.setMode mode) (s'.setMode mode) :=
  ⟨rfl, h.clipboard, h.pending, h.last⟩

theorem keep (h : AlikeSince last last' s s') (text : String) :
    AlikeSince last last' (s.keep text) (s'.keep text) := by
  unfold State.keep
  split
  · exact h
  · exact ⟨h.mode, rfl, h.pending, h.last⟩

theorem write (h : AlikeSince last last' s s') (w : Write) :
    AlikeSince last last' (s.write w) (s'.write w) := by
  cases w with
  | mode mode => exact h.setMode mode
  | modeNamed name =>
    simp only [State.write, State.setModeNamed]
    cases Mode.parse name with
    | ok mode => exact h.setMode mode
    | error e => exact h
  | pending text => exact ⟨h.mode, h.clipboard, rfl, h.last⟩
  | last text => exact ⟨h.mode, h.clipboard, h.pending, some text, rfl, rfl⟩
  | clipboard text => exact ⟨h.mode, rfl, h.pending, h.last⟩

end State.AlikeSince

/-- Editors in the same state that were called alike since their logs were these. -/
structure CalledAlikeSince (log log' : List Answered) (e e' : σ × List Answered) : Prop where
  same : e.1 = e'.1
  calls : ∃ calls : List Answered, e.2 = calls.reverse ++ log ∧ e'.2 = calls.reverse ++ log'

theorem CalledAlikeSince.logged {log log' : List Answered} {e e' : σ × List Answered}
    (h : CalledAlikeSince log log' e e') (E : Editor σ) (call : EditorCall) :
    CalledAlikeSince log log' (E.logged call e).2 (E.logged call e').2 := by
  obtain ⟨hsame, calls, hlog, hlog'⟩ := h
  constructor
  · simp only [Device.logged, hsame]
  · refine ⟨calls ++ [(call, (E call e.1).1)], ?_, ?_⟩
    · simp [Device.logged, hlog]
    · simp [Device.logged, hlog', hsame]

namespace Machine

variable {m₀ m₀' m m' : Machine (σ × List Answered)}

/-- Nothing tells the two machines apart but their generations, their announcements, their logs and
the key last read. -/
structure LooksLike (m m' : Machine (σ × List Answered)) : Prop where
  editor : m.editor.1 = m'.editor.1
  mode : m.state.mode = m'.state.mode
  clipboard : m.state.clipboard = m'.state.clipboard
  pending : m.state.pending = m'.state.pending
  timer : m.timer.SameKey m'.timer
  interceptTextFields : m.interceptTextFields = m'.interceptTextFields

/-- Looking alike is a simulation, and so is what two machines have done alike since. -/
def alikeSince (E : Editor σ) (m₀ m₀' : Machine (σ × List Answered)) :
    Simulation E.logged E.logged where
  editor := CalledAlikeSince m₀.editor.2 m₀'.editor.2
  state := State.AlikeSince m₀.state.last m₀'.state.last
  timer := PrefixTimer.SameKey
  answer_eq call h := by simp only [Device.logged, h.same]
  call call h := h.logged E call
  mode_eq h := h.mode
  pending_eq h := h.pending
  clipboard_eq h := h.clipboard
  setMode mode h := h.setMode mode
  keep text h := h.keep text
  pend key h := ⟨h.mode, h.clipboard, rfl, h.last⟩
  note key h := ⟨h.mode, h.clipboard, h.pending, some key, rfl, rfl⟩
  key_eq h := h.key_eq
  release h := h.release
  cancel h := h.cancel

theorem LooksLike.alikeSince (h : m.LooksLike m') (E : Editor σ) :
    (Machine.alikeSince E m m').Related m m' where
  editor := ⟨h.editor, [], rfl, rfl⟩
  state := ⟨h.mode, h.clipboard, h.pending, none, rfl, rfl⟩
  interceptTextFields := h.interceptTextFields
  timer := h.timer

theorem looksLike_of_alikeSince {E : Editor σ} (h : (alikeSince E m₀ m₀').Related m m') :
    m.LooksLike m' :=
  ⟨h.editor.same, h.state.mode, h.state.clipboard, h.state.pending, h.timer,
    h.interceptTextFields⟩

/-- Whatever the two machines were before, a mode set on both wipes out the difference. -/
theorem setMode_looksLike (heditor : m.editor.1 = m'.editor.1)
    (hclipboard : m.state.clipboard = m'.state.clipboard)
    (htimeout : m.timer.timeout = m'.timer.timeout)
    (hintercept : m.interceptTextFields = m'.interceptTextFields) (mode : Mode) :
    (m.setMode mode).LooksLike (m'.setMode mode) where
  editor := heditor
  mode := rfl
  clipboard := hclipboard
  pending := rfl
  timer := .of_unarmed (by simpa [setMode] using htimeout) PrefixTimer.cancel_armed
    PrefixTimer.cancel_armed
  interceptTextFields := hintercept

end Machine

namespace Moment

variable {E : Editor σ} {m₀ m₀' : Machine (σ × List Answered)}
  {y y' : Moment (σ × List Answered)}

theorem apply_alikeSince {op : Operation} (hop : ∀ generation, op ≠ .expire generation)
    (htime : y.time = y'.time) (h : (Machine.alikeSince E m₀ m₀').Related y.machine y'.machine) :
    y.answer E.logged op = y'.answer E.logged op ∧
      (y.apply E.logged op).time = (y'.apply E.logged op).time ∧
      (Machine.alikeSince E m₀ m₀').Related (y.apply E.logged op).machine
        (y'.apply E.logged op).machine := by
  refine Simulation.apply htime h (fun t t' key ht => ht.arm y.time key) ?_
    (fun generation he => absurd he (hop generation)) (fun w _ => h.state.write w)
  intro a a' ha ha'
  have hdeadline : a.deadline = a'.deadline := by
    simpa [ha, ha'] using PrefixTimer.SameKey.deadline_eq h.timer
  rw [hdeadline]

theorem run_alikeSince {ops : List Operation} (hops : ∀ generation, .expire generation ∉ ops)
    (htime : y.time = y'.time) (h : (Machine.alikeSince E m₀ m₀').Related y.machine y'.machine) :
    answers E.logged ops y = answers E.logged ops y' ∧
      (y.run E.logged ops).time = (y'.run E.logged ops).time ∧
      (Machine.alikeSince E m₀ m₀').Related (y.run E.logged ops).machine
        (y'.run E.logged ops).machine :=
  Simulation.run (fun _ hop _ _ htime' h' => apply_alikeSince (fun generation he =>
    hops generation (he ▸ hop)) htime' h') htime h

/-- Two sessions of the same editor, clock, timeout and clipboard may have been in different modes
with different keys open and armed. Once a mode is set on both, whatever is done to both has the
same answers and makes the same calls, and leaves the same mode, clipboard, slot and armed key. The
slots of the last key are written to by the same operations and with the same keys, so they differ
only until the first such operation. -/
theorem setMode_forgets (E : Editor σ) (x x' : Moment (σ × List Answered))
    (htime : x.time = x'.time) (heditor : x.machine.editor.1 = x'.machine.editor.1)
    (hclipboard : x.machine.state.clipboard = x'.machine.state.clipboard)
    (htimeout : x.machine.timer.timeout = x'.machine.timer.timeout)
    (hintercept : x.machine.interceptTextFields = x'.machine.interceptTextFields)
    (mode : Mode) (past later : List Operation)
    (hops : ∀ generation, .expire generation ∉ past ++ later) :
    let y := (x.apply E.logged (.setMode mode)).run E.logged past
    let y' := (x'.apply E.logged (.setMode mode)).run E.logged past
    answers E.logged later y = answers E.logged later y' ∧
      (y.run E.logged later).machine.LooksLike (y'.run E.logged later).machine ∧
      (∃ calls, y.machine.Calls (y.run E.logged later).machine calls ∧
        y'.machine.Calls (y'.run E.logged later).machine calls) ∧
      ∃ written : Option String,
        (y.run E.logged later).machine.state.last = written.getD y.machine.state.last ∧
          (y'.run E.logged later).machine.state.last = written.getD y'.machine.state.last := by
  intro y y'
  have hpast : ∀ generation, .expire generation ∉ past := by
    intro generation hmem
    exact hops generation (List.mem_append_left later hmem)
  have hlater : ∀ generation, .expire generation ∉ later := by
    intro generation hmem
    exact hops generation (List.mem_append_right past hmem)
  have hset : (x.apply E.logged (.setMode mode)).machine.LooksLike
      (x'.apply E.logged (.setMode mode)).machine :=
    Machine.setMode_looksLike heditor hclipboard htimeout hintercept mode
  have hclock : (x.apply E.logged (.setMode mode)).time =
      (x'.apply E.logged (.setMode mode)).time := htime
  obtain ⟨-, htime', hy⟩ := run_alikeSince hpast hclock (hset.alikeSince E)
  -- the calls and the last key are compared with those of this point, not with those of the start
  have hstart : (Machine.alikeSince E y.machine y'.machine).Related y.machine y'.machine :=
    (Machine.looksLike_of_alikeSince hy).alikeSince E
  obtain ⟨hanswers, -, hrelated⟩ := run_alikeSince hlater htime' hstart
  exact ⟨hanswers, Machine.looksLike_of_alikeSince hrelated, hrelated.editor.calls,
    hrelated.state.last⟩

/-- An open deletion is cancelled and an overdue deadline with it: after the mode is set a session
with them does not differ from one that comes from visual mode, and a key typed later expires in
both. -/
theorem setMode_forgets_armed :
    let E : Editor Unit := Device.silent
    let x : Moment (Unit × List Answered) :=
      ⟨150, { editor := ((), []), state := { mode := .visual, last := "u" } }⟩
    let x' : Moment (Unit × List Answered) :=
      ⟨150, { editor := ((), [(.undo, .ok "")])
              state := { mode := .command, pending := "d", last := "k" }
              timer := { generation := 3, armed := some ⟨3, "d", 100⟩ } }⟩
    let later : List Operation := [.expireDue, .dispatch "d", .advance 600, .dispatch "z"]
    let y := x.apply E.logged (.setMode .command)
    let y' := x'.apply E.logged (.setMode .command)
    (∀ generation, .expire generation ∉ later) ∧ y.machine.state.last ≠ y'.machine.state.last ∧
      answers E.logged later y' = [.expiry false, .key .pending, .nothing, .key .consumed] ∧
      answers E.logged later y = answers E.logged later y' ∧
      (y.run E.logged later).machine.editor.2.map Prod.fst = [.deleteAtCursor] ∧
      (y.run E.logged later).machine.LooksLike (y'.run E.logged later).machine ∧
      (y'.run E.logged later).machine.state.last = "z" := by
  intro E x x' later y y'
  have hops : ∀ generation, .expire generation ∉ later := by simp [later]
  obtain ⟨hanswers, hlook, -⟩ := setMode_forgets E x x' rfl rfl rfl rfl rfl .command [] later hops
  exact ⟨hops, by decide, by decide, hanswers, by decide, hlook, by decide⟩

end Moment
end ModalKeys
