import ModalKeys.Failure
import ModalKeys.Session.Event

/-! Events on their way to a session. -/
namespace ModalKeys

structure Inbox where
  /-- The session that took the events is gone. -/
  isClosed : Bool := false
  waiting : List HostEvent := []
  deriving Repr

namespace Inbox

def close (_ : Inbox) : Inbox := { isClosed := true }

/-- Events wait in the order in which they were sent. -/
def send (inbox : Inbox) (event : HostEvent) : Except Failure Inbox :=
  if inbox.isClosed then .error .sessionClosed
  else .ok { inbox with waiting := inbox.waiting ++ [event] }

end Inbox
end ModalKeys
