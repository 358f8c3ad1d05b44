import ModalKeys.Session.Grammar
import ModalKeys.Session.PrefixTimer

/-! A session at work on an editor: keys come in at their times, actions go out. -/
namespace ModalKeys

/-- Where the page had its focus when a key was pressed. -/
inductive FocusTarget where
  | editor | textField | unknown
  deriving DecidableEq, Repr, Inhabited

structure KeyInput where
  key : String
  target : FocusTarget := .unknown
  deriving DecidableEq, Repr

/-- What became of a key. -/
inductive Disposition where
  | consumed | pending | passThrough
  deriving DecidableEq, Repr

/-- The page must not see a key that the session took. -/
def Disposition.suppresses (d : Disposition) : Bool := d != .passThrough

structure Machine (σ : Type) where
  editor : σ
  state : State := {}
  timer : PrefixTimer := {}
  /-- Whether insert mode takes the escape key out of text fields. -/
  interceptTextFields : Bool := false

namespace Machine

variable {σ : Type}

/-- Carries an action out and forgets its error. -/
def perform (E : Editor σ) (m : Machine σ) (action : Action) : Machine σ :=
  let (state, editor) := (action.run E (m.state, m.editor)).2
  { m with state, editor }

/-- A mode set from outside drops whatever was pending. -/
def setMode (m : Machine σ) (mode : Mode) : Machine σ :=
  { m with timer := m.timer.cancel, state := m.state.clearPending.setMode mode }

/-- Does what a key does alone once its partner has not come; outside command mode nothing. -/
def fallBack (E : Editor σ) (m : Machine σ) (key : String) : Machine σ :=
  if m.state.mode = .command then
    match Grammar.fallback? key with
    | some action => perform E { m with state.last := key } action
    | none => m
  else m

/-- Lets the armed key of that generation expire, and tells whether it was live: a host may have
put another text into the slot, which then stays. -/
def expire (E : Editor σ) (m : Machine σ) (generation : Nat) : Bool × Machine σ :=
  match m.timer.take generation with
  | (none, _) => (false, m)
  | (some armed, timer) =>
    if m.state.pending = armed.key then
      (true, fallBack E { m with timer, state := m.state.clearPending } armed.key)
    else (false, { m with timer })

/-- Lets the armed key expire if its deadline has come. -/
def expireDue (E : Editor σ) (m : Machine σ) (now : Nat) : Bool × Machine σ :=
  match m.timer.due? now with
  | some armed => m.expire E armed.generation
  | none => (false, m)

/-- How the current mode reads a key. Reading one in command mode stops the timer. -/
def react (m : Machine σ) (key : String) : Reaction × Machine σ :=
  match m.state.mode with
  | .off => (.passThrough, m)
  | .command =>
    let (reaction, state) := Grammar.commandKey key m.state
    (reaction, { m with state, timer := m.timer.cancel })
  | .insert => (Grammar.insertKey key, m)
  | .visual => (Grammar.visualKey key, m)

/-- Does what a key turned out to be. -/
def follow (E : Editor σ) (now : Nat) (m : Machine σ) : Reaction → Disposition × Machine σ
  | .act action => (.consumed, m.perform E action)
  | .arm key => (.pending, { m with timer := m.timer.arm now key })
  | .pending => (.pending, m)
  | .consumed => (.consumed, m)
  | .passThrough => (.passThrough, m)

/-- Takes a key; a deadline that has come by then is served first. -/
def dispatch (E : Editor σ) (m : Machine σ) (now : Nat) (key : String) :
    Disposition × Machine σ :=
  let (reaction, m) := (m.expireDue E now).2.react key
  m.follow E now reaction

/-- Takes a key with its focus. In insert mode the keys of a text field are left to it. -/
def dispatchInput (E : Editor σ) (m : Machine σ) (now : Nat) (input : KeyInput) :
    Disposition × Machine σ :=
  if m.state.mode = .insert ∧ input.target = .textField ∧ m.interceptTextFields = false then
    (.passThrough, m)
  else m.dispatch E now input.key

end Machine
end ModalKeys
