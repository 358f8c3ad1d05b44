import ModalKeys.Editor.Call
import ModalKeys.Key.Stroke
import ModalKeys.Platform

/-! An editor made of a surface that takes keystrokes: every editing operation is a short list of
surface calls, carried out until one of them is refused. -/
namespace ModalKeys

/-- What a surface can be asked to do. -/
inductive SurfaceCall where
  | sendKey (stroke : Stroke)
  | selectedText | clearSelection | blur
  | writeClipboard (text : String)
  deriving DecidableEq, Repr

/-- Whether the call reports a text. -/
def SurfaceCall.reads (call : SurfaceCall) : Bool := call == .selectedText

abbrev Surface (σ : Type) := Device SurfaceCall σ

def Direction.arrow : Direction → KeyCode
  | left => .left
  | right => .right
  | up => .up
  | down => .down

namespace SurfaceCall

/-- A key pressed alone. -/
def press (code : KeyCode) : SurfaceCall := .sendKey ⟨code, .none⟩

/-- A key pressed with modifiers. -/
def chord (code : KeyCode) (modifiers : Modifiers) : SurfaceCall := .sendKey ⟨code, modifiers⟩

/-- Selects the line of the cursor. -/
def selectLine : List SurfaceCall := [press .home, chord .endKey .onlyShift]

/-- Reads the selection and drops it. -/
def copySelection : List SurfaceCall := [.selectedText, .clearSelection]

/-- Makes the calls in order up to the first that is refused, whose error is the answer. If all are
granted the answer is the text that a reading call among them reported, else `text`. -/
def perform {σ : Type} (S : Surface σ) :
    List SurfaceCall → String → σ → Except EditorError String × σ
  | [], text, s => (.ok text, s)
  | call :: calls, text, s =>
    match S call s with
    | (.ok answer, s) => perform S calls (if call.reads then answer else text) s
    | (.error e, s) => (.error e, s)

end SurfaceCall

namespace EditorCall

open SurfaceCall

/-- The surface calls that an editing operation stands for. Only jumps in the document and
shortcuts depend on the platform. -/
def surfaceCalls (platform : Platform) : EditorCall → List SurfaceCall
  | moveCursor d => [press d.arrow]
  | extendSelection d => [chord d.arrow .onlyShift]
  | lineStart => [press .home]
  | lineEnd => [press .endKey]
  | documentStart =>
    match platform with
    | .macOs => [chord .up .onlySuper]
    | .other => [chord .home .onlyControl]
  | documentEnd =>
    match platform with
    | .macOs => [chord .down .onlySuper]
    | .other => [chord .endKey .onlyControl]
  | moveWord d extend =>
    let held := platform.wordModifier
    [chord d.arrow (if extend then held.withShift else held)]
  | deleteAtCursor => [press .delete]
  | deleteLine => selectLine ++ [press .backspace]
  | deleteSelection => [press .delete]
  | selectedText => [.selectedText]
  | yankSelection => copySelection
  | yankLine => selectLine ++ copySelection
  | pasteText text => [.writeClipboard text, chord (.char 'v') platform.primaryModifier]
  | undo => [chord (.char 'z') platform.primaryModifier]
  | redo =>
    match platform with
    | .macOs => [chord (.char 'z') Modifiers.onlySuper.withShift]
    | .other => [chord (.char 'y') .onlyControl]
  | clearSelection => [.clearSelection]
  | releaseFocus => [.blur]

end EditorCall

/-- The editor behind a surface. -/
def Editor.ofSurface {σ : Type} (platform : Platform) (S : Surface σ) : Editor σ :=
  fun call s => SurfaceCall.perform S (call.surfaceCalls platform) "" s

end ModalKeys
