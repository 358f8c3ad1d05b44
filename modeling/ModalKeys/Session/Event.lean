import ModalKeys.Config
import ModalKeys.Message
import ModalKeys.Session.Machine

/-! What a host tells a session. -/
namespace ModalKeys

inductive HostEvent where
  | key (input : KeyInput)
  /-- Turns the session on, into command mode, or off. -/
  | toggle (enabled : Bool)
  | setMode (mode : Mode)
  /-- A message in JSON, which may be malformed. -/
  | message (text : String)
  deriving DecidableEq, Repr

/-- The mode that an event asks for. Keys ask for none, nor do messages that are malformed or name
no mode. -/
def HostEvent.requestedMode? : HostEvent → Option Mode
  | key _ => none
  | toggle enabled => some (if enabled then .command else .off)
  | setMode mode => some mode
  | message text => (HostMessage.parse? text).bind HostMessage.requestedMode?

namespace Machine

variable {σ : Type}

/-- A machine as configured, in the start mode. Starting in `off` is not announced. -/
def ofConfig (editor : σ) (config : Config) : Machine σ :=
  let state : State := {}
  { editor
    state := if config.startMode = .off then state else state.setMode config.startMode
    timer := { timeout := config.prefixTimeout }
    interceptTextFields := config.interceptTextFields }

/-- Takes an event at its time; only keys have a disposition. -/
def handle (E : Editor σ) (m : Machine σ) (now : Nat) (event : HostEvent) :
    Option Disposition × Machine σ :=
  match event with
  | .key input =>
    let (disposition, m) := m.dispatchInput E now input
    (some disposition, m)
  | event =>
    match event.requestedMode? with
    | some mode => (none, m.setMode mode)
    | none => (none, m)

end Machine
end ModalKeys
