import ModalKeys.Proofs.Machine.Coherence

/-! The way out of a session. Escape leads to command mode with nothing open, from there a colon and
`q` turn the session off, and what is off stays as it is; no refusal of the editor is in the way. -/
namespace ModalKeys

variable {σ : Type}

theorem isEscape_iff {key : String} : isEscape key ↔ key = "Escape" ∨ key = "Esc" := by
  simp [isEscape]

namespace Grammar

theorem resolve?_escape {first key : String} (h : isEscape key) : resolve? first key = none := by
  unfold resolve?
  split
  case h_5 => rfl
  all_goals cases h

theorem single?_escape {key : String} (h : isEscape key) : single? key = none := by
  rcases isEscape_iff.mp h with rfl | rfl <;> rfl

end Grammar

namespace Machine

variable {E : Editor σ} {m : Machine σ} {now : Nat} {key : String}

/-- Command mode with nothing open. -/
structure AtCommand (m : Machine σ) : Prop extends m.Idle where
  mode : m.state.mode = .command

/-- Off with nothing open. -/
structure AtRest (m : Machine σ) : Prop extends m.Idle where
  mode : m.state.mode = .off

/-! ## Escape -/

theorem read_escape (h : Sound m) (hon : m.state.mode ≠ .off) (hkey : isEscape key) :
    (m.read E now key).2.AtCommand := by
  obtain ⟨d, m', hr, h'⟩ := m.read_reads E now key
  rw [hr]
  cases h' with
  | off mode => exact absurd mode hon
  | colon mode colon =>
    subst colon
    cases hkey
  | second mode =>
    rw [Grammar.resolve?_escape hkey]
    exact ⟨⟨rfl, PrefixTimer.cancel_armed⟩, mode⟩
  | opens mode slot first =>
    rcases isEscape_iff.mp hkey with rfl | rfl <;> cases first
  | single mode =>
    rw [Grammar.single?_escape hkey]
    exact ⟨⟨rfl, PrefixTimer.cancel_armed⟩, mode⟩
  | escape mode =>
    have hempty := h.inCommand.slot_empty (by simp [mode])
    have hunarmed := h.unarmed (by simp [mode])
    exact ⟨⟨by simpa using hempty, by simpa using hunarmed⟩, perform_mode_of_first E m rfl rfl⟩
  | typed mode escape => exact absurd hkey escape
  | visual mode =>
    have hempty := h.inCommand.slot_empty (by simp [mode])
    have hunarmed := h.unarmed (by simp [mode])
    rw [visualAction?, if_pos hkey]
    exact ⟨⟨by simpa [carryOut] using hempty, by simpa [carryOut] using hunarmed⟩,
      perform_mode_of_first E m rfl rfl⟩

theorem dispatch_escape (h : Sound m) (hon : m.state.mode ≠ .off) (hkey : isEscape key) :
    (m.dispatch E now key).2.AtCommand := by
  rw [dispatch_eq_read]
  refine read_escape h.expireDue ?_ hkey
  rw [(expireDue_mode E m now).1]
  exact hon

/-! ## Colon and `q` -/

theorem dispatch_colon (h : m.AtCommand) :
    (m.dispatch E now ":").2 =
      { m with state := { m.state with pending := ":" }, timer := m.timer.cancel } := by
  rw [dispatch_eq_read, expireDue_unarmed h.unarmed, read_command E m now ":" h.mode]
  rfl

theorem dispatch_quit (hmode : m.state.mode = .command) (hslot : m.state.pending = ":")
    (hunarmed : m.timer.armed = none) : (m.dispatch E now "q").2.AtRest := by
  rw [dispatch_eq_read, expireDue_unarmed hunarmed, read_command E m now "q" hmode]
  have hquit : Grammar.commandKey "q" m.state = (.act .quit, (m.close "q").state) := by
    simp [Grammar.commandKey, State.hasPending, hslot, Grammar.resolve?, Grammar.actOr, close]
  rw [hquit]
  exact ⟨⟨perform_pending E _ _, PrefixTimer.cancel_armed⟩, perform_mode_of_first E _ rfl rfl⟩

theorem AtCommand.quit (h : m.AtCommand) (now later : Nat) :
    ((m.dispatch E now ":").2.dispatch E later "q").2.AtRest := by
  rw [dispatch_colon h]
  exact dispatch_quit h.mode rfl PrefixTimer.cancel_armed

/-! ## Off -/

theorem AtRest.expire (h : m.AtRest) (generation : Nat) :
    m.expire E generation = (false, m) := expire_stale (by simp [h.unarmed])

theorem AtRest.dispatch (h : m.AtRest) (now : Nat) (key : String) :
    m.dispatch E now key = (.passThrough, m) := by
  rw [dispatch_eq_read, expireDue_unarmed h.unarmed]
  simp only [read, react, h.mode, follow]

theorem AtRest.dispatchInput (h : m.AtRest) (now : Nat) (input : KeyInput) :
    m.dispatchInput E now input = (.passThrough, m) := by
  have hl : ¬ m.LeavesAlone input := by simp [LeavesAlone, h.mode]
  rw [dispatchInput_eq_dispatch E now hl]
  exact h.dispatch now input.key

end Machine

namespace Operation

/-- A key, an expiry, or time that passes. -/
def isKeyOrExpiry : Operation → Bool
  | dispatch _ | dispatchInput _ | expire _ | expireDue | advance _ => true
  | _ => false

/-- What an operation returns that a session does not care for. -/
def refusal : Operation → Answer
  | dispatch _ | dispatchInput _ => .key .passThrough
  | expire _ | expireDue => .expiry false
  | _ => .nothing

end Operation

namespace Moment

variable {E : Editor σ} {x : Moment σ}

theorem apply_atRest (h : x.machine.AtRest) {op : Operation} (hop : op.isKeyOrExpiry) :
    x.answer E op = op.refusal ∧ (x.apply E op).machine = x.machine := by
  cases op with
  | dispatch key => simp [answer, apply, Operation.refusal, h.dispatch]
  | dispatchInput input => simp [answer, apply, Operation.refusal, h.dispatchInput]
  | expire generation => simp [answer, apply, Operation.refusal, h.expire]
  | expireDue => simp [answer, apply, Operation.refusal, Machine.expireDue_unarmed h.unarmed]
  | advance span => exact ⟨rfl, rfl⟩
  | _ => cases hop

theorem run_atRest (h : x.machine.AtRest) {ops : List Operation}
    (hops : ∀ op ∈ ops, op.isKeyOrExpiry) :
    answers E ops x = ops.map Operation.refusal ∧ (x.run E ops).machine = x.machine := by
  induction ops generalizing x with
  | nil => exact ⟨rfl, rfl⟩
  | cons op ops ih =>
    obtain ⟨hanswer, hsame⟩ := apply_atRest (E := E) h (hops op (by simp))
    have hnext : (x.apply E op).machine.AtRest := hsame ▸ h
    obtain ⟨hanswers, hrun⟩ := ih hnext fun o ho => hops o (by simp [ho])
    constructor
    · simp only [answers, List.map_cons, hanswer, hanswers]
    · exact hrun.trans hsame

/-- From wherever keys, expiries and mode changes have led a session that is not off, and whatever
the editor refuses: escape leads to command mode with nothing open or armed, a colon and `q` after
any time turn it off, and then keys are passed through, expiries are stale, and nothing changes. -/
theorem way_out (E : Editor σ) (x : Moment σ) (hx : x.machine.Idle) (ops : List Operation)
    (hops : ∀ op ∈ ops, op.isOrdinary) (hon : (x.run E ops).machine.state.mode ≠ .off)
    (key : String) (hkey : key ∈ ["Escape", "Esc"]) (span span' : Nat) (later : List Operation)
    (hlater : ∀ op ∈ later, op.isKeyOrExpiry) :
    let escaped := x.run E (ops ++ [.dispatch key])
    let left := escaped.run E [.advance span, .dispatch ":", .advance span', .dispatch "q"]
    escaped.machine.AtCommand ∧ left.machine.AtRest ∧
      answers E later left = later.map Operation.refusal ∧
      (left.run E later).machine = left.machine := by
  intro escaped left
  have hescape : isEscape key := isEscape_iff.mpr (by simpa using hkey)
  have hsound : Sound (x.run E ops).machine :=
    x.run_ordinary E (fun _ => Sound.kept) hops (.of_idle hx)
  have hescaped : escaped.machine.AtCommand := by
    show (x.run E (ops ++ [.dispatch key])).machine.AtCommand
    rw [run_append, run_singleton]
    exact Machine.dispatch_escape hsound hon hescape
  have hleft : left.machine.AtRest :=
    hescaped.quit (escaped.time + span) (escaped.time + span + span')
  exact ⟨hescaped, hleft, run_atRest hleft hlater⟩

/-- An overdue yank expires and is refused before escape is read, a colon may wait for a minute, and
what is typed later is in vain. -/
theorem way_out_overdue :
    let E : Editor Unit := Device.absent
    let x : Moment Unit := ⟨0, { editor := () }⟩
    let ops : List Operation := [.setMode .visual, .dispatch "Esc", .dispatch "y", .advance 700]
    let later : List Operation :=
      [.dispatch "i", .expire 1, .advance 9, .dispatchInput ⟨"Esc", .editor⟩]
    let left := (x.run E (ops ++ [.dispatch "Escape"])).run E
      [.advance 60000, .dispatch ":", .advance 0, .dispatch "q"]
    x.machine.Idle ∧ (∀ op ∈ ops, op.isOrdinary) ∧ (x.run E ops).machine.state.mode ≠ .off ∧
      (x.run E ops).machine.timer.armed = some ⟨1, "y", 500⟩ ∧
      (∀ op ∈ later, op.isKeyOrExpiry) ∧ left.machine.AtRest ∧
      answers E later left = [.key .passThrough, .expiry false, .nothing, .key .passThrough] ∧
      (left.run E later).machine = left.machine := by
  intro E x ops later left
  have hx : x.machine.Idle := ⟨rfl, rfl⟩
  have hops : ∀ op ∈ ops, op.isOrdinary := by decide
  have hon : (x.run E ops).machine.state.mode ≠ .off := by decide
  have hlater : ∀ op ∈ later, op.isKeyOrExpiry := by decide
  obtain ⟨-, hleft, hanswers, hsame⟩ :=
    way_out E x hx ops hops hon "Escape" (by decide) 60000 0 later hlater
  exact ⟨hx, hops, hon, by decide, hlater, hleft, hanswers, hsame⟩

end Moment
end ModalKeys
