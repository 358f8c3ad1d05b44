import ModalKeys.Key.Stroke
import ModalKeys.Session.Action

/-! How each mode reads a key. Command mode has commands of two keys: the first is kept in the
pending slot, and the next key completes it or drops it. -/
namespace ModalKeys

/-- What a key turns out to be. -/
inductive Reaction where
  | act (action : Action)
  /-- The key opens a two-key command that times out. -/
  | arm (key : String)
  /-- The key waits for its partner without a limit. -/
  | pending
  /-- The key means nothing, and nobody else gets it either. -/
  | consumed
  | passThrough
  deriving DecidableEq, Repr

namespace Grammar

/-- The keys that open a command and time out. -/
def isPrefixKey (key : String) : Bool := key == "g" || key == "y" || key == "d"

/-- The two-key commands. -/
def resolve? : String → String → Option Action
  | "g", "g" => some .documentStart
  | "y", "y" => some .yankLine
  | "d", "d" => some .deleteLine
  | ":", "q" => some .quit
  | _, _ => none

/-- What the first key of a command does when its partner never comes. -/
def fallback? : String → Option Action
  | "d" => some .deleteAtCursor
  | "y" => some .yankAtCursor
  | _ => none

/-- The commands of one key. -/
def single? : String → Option Action
  | "i" => some (.enterMode .insert)
  | "v" => some (.enterMode .visual)
  | "h" => some (.moveCursor .left)
  | "j" => some (.moveCursor .down)
  | "k" => some (.moveCursor .up)
  | "l" => some (.moveCursor .right)
  | "w" => some (.moveWord .right false)
  | "b" => some (.moveWord .left false)
  | "0" => some .lineStart
  | "$" => some .lineEnd
  | "G" => some .documentEnd
  | "y" => some .yankAtCursor
  | "p" => some .paste
  | "u" => some .undo
  | "." => some .redo
  | _ => none

/-- The keys of visual mode, escape apart. -/
def visual? : String → Option Action
  | "h" => some (.extendSelection .left)
  | "j" => some (.extendSelection .down)
  | "k" => some (.extendSelection .up)
  | "l" => some (.extendSelection .right)
  | "w" => some (.moveWord .right true)
  | "b" => some (.moveWord .left true)
  | "y" => some .yankSelection
  | "d" => some .deleteSelection
  | "p" => some .pasteOverSelection
  | "u" => some .undo
  | "." => some .redo
  | _ => none

/-- An action if there is one, else the key is lost. -/
def actOr (action? : Option Action) : Reaction :=
  match action? with
  | some action => .act action
  | none => .consumed

/-- A colon takes the slot whatever stands there; any other key completes what the slot holds, or
drops it; with an empty slot a key opens a command or is one. -/
def commandKey (key : String) (s : State) : Reaction × State :=
  if key = ":" then (.pending, { s with pending := ":" })
  else if s.hasPending then
    (actOr (resolve? s.pending key), { s.clearPending with last := key })
  else if isPrefixKey key then (.arm key, { s with pending := key })
  else (actOr (single? key), { s with last := key })

def insertKey (key : String) : Reaction :=
  if isEscape key then .act .exitInsert else .passThrough

def visualKey (key : String) : Reaction :=
  if isEscape key then .act .exitVisual else actOr (visual? key)

end Grammar
end ModalKeys
