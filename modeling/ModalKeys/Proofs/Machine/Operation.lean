import ModalKeys.Proofs.Machine.Dispatch
import ModalKeys.Session.Loop

/-! Everything that can be done to a machine from outside, and runs of it. Besides the operations
that a machine offers, a host holds the state itself and may write to it behind the machine's
back. -/
namespace ModalKeys

/-- A write to the state that the machine does not see. -/
inductive Write where
  | mode (mode : Mode)
  | modeNamed (name : String)
  | pending (text : String)
  | last (text : String)
  | clipboard (text : String)
  deriving DecidableEq, Repr

def State.write (s : State) : Write → State
  | .mode mode => s.setMode mode
  | .modeNamed name => (s.setModeNamed name).2
  | .pending text => { s with pending := text }
  | .last text => { s with last := text }
  | .clipboard text => { s with clipboard := text }

inductive Operation where
  | dispatch (key : String)
  | dispatchInput (input : KeyInput)
  | setMode (mode : Mode)
  | expire (generation : Nat)
  | expireDue
  | perform (action : Action)
  /-- Time passes. -/
  | advance (span : Nat)
  | write (write : Write)
  deriving DecidableEq, Repr

namespace Operation

def isPerform : Operation → Bool
  | perform _ => true
  | _ => false

def isWrite : Operation → Bool
  | write _ => true
  | _ => false

/-- A key, an expiry, a mode set from outside, or time that passes. -/
def isOrdinary : Operation → Bool
  | perform _ | write _ => false
  | _ => true

end Operation

/-- What an operation returns: what became of a key, or whether a key has expired. -/
inductive Answer where
  | key (disposition : Disposition)
  | expiry (fired : Bool)
  | nothing
  deriving DecidableEq, Repr

variable {σ : Type}

namespace Machine

/-- Nothing is open. -/
structure Idle (m : Machine σ) : Prop where
  slot : m.state.pending = ""
  unarmed : m.timer.armed = none

/-- A property that expiries, readings at this time and mode changes keep. -/
structure Kept (E : Editor σ) (now : Nat) (P : Machine σ → Prop) : Prop where
  expire : ∀ m generation, P m → P (m.expire E generation).2
  read : ∀ m key, P m → P (m.read E now key).2
  setMode : ∀ m mode, P m → P (m.setMode mode)

namespace Kept

variable {E : Editor σ} {now : Nat} {P : Machine σ → Prop} {m : Machine σ}

theorem expireDue (h : Kept E now P) (time : Nat) (hm : P m) : P (m.expireDue E time).2 := by
  rcases m.expireDue_cases E time with ⟨-, he⟩ | ⟨a, -, -, he⟩
  · rw [he]
    exact hm
  · rw [he]
    exact h.expire m _ hm

theorem dispatch (h : Kept E now P) (key : String) (hm : P m) : P (m.dispatch E now key).2 := by
  rw [dispatch_eq_read]
  exact h.read _ key (h.expireDue now hm)

theorem dispatchInput (h : Kept E now P) (input : KeyInput) (hm : P m) :
    P (m.dispatchInput E now input).2 := by
  by_cases hl : m.LeavesAlone input
  · rw [dispatchInput_alone E now hl]
    exact hm
  · rw [dispatchInput_eq_dispatch E now hl]
    exact h.dispatch input.key hm

/-- What looks only at the editor and at the clipboard is kept if every action keeps it: the rest of
an expiry or a reading writes to slots and to the timer. -/
theorem of_perform (hperform : ∀ m action, P m → P (m.perform E action))
    (hcongr : ∀ m m', m'.editor = m.editor → m'.state.clipboard = m.state.clipboard →
      P m → P m') : Kept E now P := by
  have hcarryOut (m : Machine σ) (action? : Option Action) (hm : P m) :
      P (m.carryOut E action?) := by
    cases action? with
    | none => exact hm
    | some action => exact hperform m action hm
  constructor
  · intro m generation hm
    obtain ⟨fired, m', he, h⟩ := m.expire_expires E generation
    rw [he]
    cases h with
    | stale => exact hm
    | foreign => exact hcongr m _ rfl rfl hm
    | fired =>
      rcases fallBack_cases E { m with timer := m.timer.release, state := m.state.clearPending }
        m.state.pending with hf | ⟨action, -, hf⟩
      · rw [lapse, hf]
        exact hcongr m _ rfl rfl hm
      · rw [lapse, hf]
        exact hperform _ action (hcongr m _ rfl rfl hm)
  · intro m key hm
    have hclosed : P (m.close key) := hcongr m _ rfl rfl hm
    obtain ⟨d, m', hr, h⟩ := m.read_reads E now key
    rw [hr]
    cases h with
    | off => exact hm
    | colon => exact hcongr m _ rfl rfl hm
    | second => exact hcarryOut _ _ hclosed
    | opens => exact hcongr m _ rfl rfl hm
    | single => exact hcarryOut _ _ hclosed
    | escape => exact hperform m _ hm
    | typed => exact hm
    | visual => exact hcarryOut m _ hm
  · intro m mode hm
    exact hcongr m _ rfl rfl hm

end Kept
end Machine

namespace Moment

/-- The moment after an operation; only time that passes moves the clock. -/
def apply (E : Editor σ) (x : Moment σ) : Operation → Moment σ
  | .dispatch key => { x with machine := (x.machine.dispatch E x.time key).2 }
  | .dispatchInput input => { x with machine := (x.machine.dispatchInput E x.time input).2 }
  | .setMode mode => { x with machine := x.machine.setMode mode }
  | .expire generation => { x with machine := (x.machine.expire E generation).2 }
  | .expireDue => { x with machine := (x.machine.expireDue E x.time).2 }
  | .perform action => { x with machine := x.machine.perform E action }
  | .advance span => { x with time := x.time + span }
  | .write w => { x with machine.state := x.machine.state.write w }

def run (E : Editor σ) (x : Moment σ) (ops : List Operation) : Moment σ := ops.foldl (apply E) x

def answer (E : Editor σ) (x : Moment σ) : Operation → Answer
  | .dispatch key => .key (x.machine.dispatch E x.time key).1
  | .dispatchInput input => .key (x.machine.dispatchInput E x.time input).1
  | .expire generation => .expiry (x.machine.expire E generation).1
  | .expireDue => .expiry (x.machine.expireDue E x.time).1
  | .setMode _ | .perform _ | .advance _ | .write _ => .nothing

/-- What the operations of a run return, one after the other. -/
def answers (E : Editor σ) : List Operation → Moment σ → List Answer
  | [], _ => []
  | op :: ops, x => x.answer E op :: answers E ops (x.apply E op)

variable (E : Editor σ) (x : Moment σ)

theorem time_le_apply (op : Operation) : x.time ≤ (x.apply E op).time := by
  cases op <;> simp [apply]

variable {E x} in
/-- An operation is made of expiries, readings, mode changes, actions and writes, and keeps what
each of them keeps. -/
theorem apply_keeps {P : Machine σ → Prop} {op : Operation} (h : Machine.Kept E x.time P)
    (hperform : ∀ m action, op = .perform action → P m → P (m.perform E action))
    (hwrite : ∀ m w, op = .write w → P m → P { m with state := m.state.write w })
    (hx : P x.machine) : P (x.apply E op).machine := by
  cases op with
  | dispatch key => exact h.dispatch key hx
  | dispatchInput input => exact h.dispatchInput input hx
  | setMode mode => exact h.setMode _ mode hx
  | expire generation => exact h.expire _ generation hx
  | expireDue => exact h.expireDue x.time hx
  | perform action => exact hperform _ action rfl hx
  | advance span => exact hx
  | write w => exact hwrite _ w rfl hx

@[simp] theorem run_nil : x.run E [] = x := rfl

@[simp] theorem run_append (ops later : List Operation) :
    x.run E (ops ++ later) = (x.run E ops).run E later := List.foldl_append

@[simp] theorem run_singleton (op : Operation) : x.run E [op] = x.apply E op := rfl

theorem run_keeps {P : Moment σ → Prop} {ops : List Operation}
    (h : ∀ op ∈ ops, ∀ y, P y → P (y.apply E op)) (hx : P x) : P (x.run E ops) := by
  induction ops generalizing x with
  | nil => exact hx
  | cons op ops ih =>
    exact ih (x.apply E op) (fun o ho => h o (by simp [ho])) (h op (by simp) x hx)

variable {E x} in
/-- Ordinary operations keep what expiries, readings and mode changes keep. -/
theorem apply_ordinary {P : Machine σ → Prop} {op : Operation} (h : Machine.Kept E x.time P)
    (hop : op.isOrdinary) (hx : P x.machine) : P (x.apply E op).machine := by
  refine x.apply_keeps h (fun _ action he => ?_) (fun _ w he => ?_) hx
  · simp [he, Operation.isOrdinary] at hop
  · simp [he, Operation.isOrdinary] at hop

theorem run_ordinary {P : Machine σ → Prop} {ops : List Operation}
    (h : ∀ now, Machine.Kept E now P) (hops : ∀ op ∈ ops, op.isOrdinary) (hx : P x.machine) :
    P (x.run E ops).machine :=
  x.run_keeps (P := fun y => P y.machine) E
    (fun op hop y hy => y.apply_ordinary (h y.time) (hops op hop) hy) hx

end Moment
end ModalKeys
