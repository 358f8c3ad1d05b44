import ModalKeys.Json.Reader
import ModalKeys.Mode

/-! Messages of the host's settings panel, in JSON. -/
namespace ModalKeys

inductive HostMessage where
  /-- Turns the session on, into command mode, or off. -/
  | toggleInsertMode (enabled : Bool)
  | setMode (mode : String)
  deriving DecidableEq, Repr

namespace HostMessage

open Json (Value only?)

/-- The message of a kind, from the value that the kind asks for. -/
def ofKind? (kind : String) (argument : String → Option Value) : Option HostMessage :=
  match kind with
  | "toggleInsertMode" | "toggleCommandMode" =>
    match argument "enabled" with
    | some (.bool enabled) => some (.toggleInsertMode enabled)
    | _ => none
  | "setMode" =>
    match argument "mode" with
    | some (.string mode) => some (.setMode mode)
    | _ => none
  | _ => none

/-- A message is an object that names its kind and has the kind's member, each once, among any
others; or an array of the two values. -/
def ofValue? : Value → Option HostMessage
  | .object members =>
    match only? "type" members with
    | some (.string kind) => ofKind? kind (only? · members)
    | _ => none
  | .array [.string kind, value] => ofKind? kind fun _ => some value
  | _ => none

def parse? (text : String) : Option HostMessage := (Json.parse? text).bind ofValue?

def toJson : HostMessage → String
  | toggleInsertMode enabled =>
    "\x7b\"type\":\"toggleInsertMode\",\"enabled\":" ++ (if enabled then "true" else "false") ++
      "\x7d"
  | setMode mode => "\x7b\"type\":\"setMode\",\"mode\":" ++ Json.encode mode ++ "\x7d"

/-- The mode that a message asks for, if there is a mode of that name. -/
def requestedMode? : HostMessage → Option Mode
  | toggleInsertMode enabled => some (if enabled then .command else .off)
  | setMode mode => (Mode.parse mode).toOption

end HostMessage
end ModalKeys
