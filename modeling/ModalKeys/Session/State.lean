import ModalKeys.Mode

/-! What a session remembers: its mode, a clipboard of its own and two slots for keys. -/
namespace ModalKeys

structure State where
  mode : Mode := .off
  clipboard : String := ""
  /-- The key whose partner is awaited; empty when none is. -/
  pending : String := ""
  /-- The key that was last acted on or found meaningless. -/
  last : String := ""
  /-- Every mode that subscribers were told of, the latest first. -/
  announced : List Mode := []
  deriving DecidableEq, Repr, Inhabited

namespace State

def hasPending (s : State) : Bool := !s.pending.isEmpty

def clearPending (s : State) : State := { s with pending := "" }

/-- Setting a mode is announced even if it is the mode already. -/
def setMode (s : State) (mode : Mode) : State :=
  { s with mode, announced := mode :: s.announced }

/-- Sets the mode of that name; a name that no mode has changes nothing. -/
def setModeNamed (s : State) (name : String) : Bool × State :=
  match Mode.parse name with
  | .ok mode => (true, s.setMode mode)
  | .error _ => (false, s)

/-- Keeps a text for later pastes; an empty one leaves the clipboard alone. -/
def keep (s : State) (text : String) : State :=
  if text.isEmpty then s else { s with clipboard := text }

/-- What a subscriber finds who has seen the first `seen` announcements. -/
def newsSince (s : State) (seen : Nat) : Option Mode :=
  if seen < s.announced.length then some s.mode else none

def statusLine (s : State) : String := "MODE: " ++ s.mode.displayName

def statusVisible (s : State) : Bool := s.mode.isActive

end State
end ModalKeys
