import ModalKeys.Editor.Call
import ModalKeys.Session.State

/-! What keys can bring about. An action is a short list of steps, and the first call that the
editor refuses ends it. -/
namespace ModalKeys

inductive Action where
  | enterMode (mode : Mode)
  | exitInsert | exitVisual | quit
  | moveCursor (direction : Direction)
  | extendSelection (direction : Direction)
  | moveWord (direction : Direction) (extend : Bool)
  | lineStart | lineEnd | documentStart | documentEnd
  | deleteAtCursor | deleteLine | deleteSelection
  | yankAtCursor | yankLine | yankSelection
  | paste | pasteOverSelection
  | undo | redo
  deriving DecidableEq, Repr

/-- One step of an action. -/
inductive Step where
  | setMode (mode : Mode)
  | call (call : EditorCall)
  /-- A call whose text goes to the clipboard. -/
  | keep (call : EditorCall)
  /-- Pastes the clipboard if it holds anything. -/
  | paste
  deriving DecidableEq, Repr

/-- Leaving a mode does not wait for the editor's consent; an edit changes the mode only once all
its calls are granted. -/
def Action.steps : Action → List Step
  | enterMode mode => [.setMode mode]
  | exitInsert => [.setMode .command, .call .releaseFocus]
  | exitVisual => [.setMode .command, .call .clearSelection]
  | quit => [.setMode .off, .call .clearSelection]
  | moveCursor d => [.call (.moveCursor d)]
  | extendSelection d => [.call (.extendSelection d)]
  | moveWord d extend => [.call (.moveWord d extend)]
  | lineStart => [.call .lineStart]
  | lineEnd => [.call .lineEnd]
  | documentStart => [.call .documentStart]
  | documentEnd => [.call .documentEnd]
  | deleteAtCursor => [.call .deleteAtCursor]
  | deleteLine => [.call .deleteLine]
  | deleteSelection => [.keep .selectedText, .call .deleteSelection, .setMode .command]
  | yankAtCursor => [.call (.extendSelection .right), .keep .yankSelection]
  | yankLine => [.keep .yankLine]
  | yankSelection => [.keep .yankSelection, .setMode .command]
  | paste => [.paste]
  | pasteOverSelection => [.paste, .setMode .command]
  | undo => [.call .undo]
  | redo => [.call .redo]

variable {σ : Type}

namespace Step

/-- Makes a call; if it is granted, `f` says what its text does to the state. -/
def ask (E : Editor σ) (call : EditorCall) (f : String → State → State) (w : State × σ) :
    Except EditorError Unit × (State × σ) :=
  match E call w.2 with
  | (.ok text, editor) => (.ok (), f text w.1, editor)
  | (.error e, editor) => (.error e, w.1, editor)

def run (E : Editor σ) (w : State × σ) : Step → Except EditorError Unit × (State × σ)
  | setMode mode => (.ok (), w.1.setMode mode, w.2)
  | call c => ask E c (fun _ s => s) w
  | keep c => ask E c (fun text s => s.keep text) w
  | paste =>
    if w.1.clipboard.isEmpty then (.ok (), w)
    else ask E (.pasteText w.1.clipboard) (fun _ s => s) w

/-- Runs the steps in order up to the first that fails. -/
def runAll (E : Editor σ) : List Step → State × σ → Except EditorError Unit × (State × σ)
  | [], w => (.ok (), w)
  | step :: steps, w =>
    match step.run E w with
    | (.ok (), w) => runAll E steps w
    | (.error e, w) => (.error e, w)

end Step

/-- Carries an action out; the error is that of the call which ended it. -/
def Action.run (E : Editor σ) (a : Action) (w : State × σ) :
    Except EditorError Unit × (State × σ) :=
  Step.runAll E a.steps w

end ModalKeys
