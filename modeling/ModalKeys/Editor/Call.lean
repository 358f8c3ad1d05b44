/-! What a session asks of an editor, and the devices that answer. -/
namespace ModalKeys

inductive Direction where
  | left | right | up | down
  deriving DecidableEq, Repr

/-- An editing operation. -/
inductive EditorCall where
  | moveCursor (direction : Direction)
  | extendSelection (direction : Direction)
  | lineStart | lineEnd | documentStart | documentEnd
  | moveWord (direction : Direction) (extend : Bool)
  | deleteAtCursor | deleteLine | deleteSelection
  | selectedText | yankSelection | yankLine
  | pasteText (text : String)
  | undo | redo | clearSelection | releaseFocus
  deriving DecidableEq, Repr

/-- Whether the operation reports a text. -/
def EditorCall.reads : EditorCall → Bool
  | selectedText | yankSelection | yankLine => true
  | _ => false

inductive EditorError where
  | unavailable
  | clipboard (detail : String)
  deriving DecidableEq, Repr

def EditorError.message : EditorError → String
  | unavailable => "Editor surface unavailable"
  | clipboard detail => "Clipboard error: " ++ detail

/-- Something with a state of its own that answers calls: each is granted with a text, which is
empty where there is nothing to report, or refused. -/
abbrev Device (Call σ : Type) := Call → σ → Except EditorError String × σ

abbrev Editor (σ : Type) := Device EditorCall σ

namespace Device

variable {Call σ : Type}

/-- Nothing is there: every call is refused. -/
def absent : Device Call σ := fun _ s => (.error .unavailable, s)

/-- Grants every call and has nothing to report. -/
def silent : Device Call σ := fun _ s => (.ok "", s)

/-- The same device with a log of its calls and answers, the latest first. -/
def logged (D : Device Call σ) :
    Device Call (σ × List (Call × Except EditorError String)) :=
  fun call (s, log) =>
    let (answer, s) := D call s
    (answer, s, (call, answer) :: log)

end Device
end ModalKeys
