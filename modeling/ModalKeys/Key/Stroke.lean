import ModalKeys.Key.Code
import ModalKeys.Key.Modifiers

/-! A key pressed with its modifiers, and the two texts made of one: the text of the stroke, and
the symbol by which a session knows the key. -/
namespace ModalKeys

structure Stroke where
  code : KeyCode
  modifiers : Modifiers := .none
  deriving DecidableEq, Repr

namespace Stroke

def hasShift (s : Stroke) : Bool := s.modifiers.shift
def hasControl (s : Stroke) : Bool := s.modifiers.control
def hasAlt (s : Stroke) : Bool := s.modifiers.alt

/-- The Meta of a stroke's text is the super modifier. -/
def hasMeta (s : Stroke) : Bool := s.modifiers.super

/-- The modifiers in a fixed order, then the key. -/
def text (s : Stroke) : String :=
  (if s.hasControl then "Ctrl+" else "") ++ (if s.hasAlt then "Alt+" else "") ++
    (if s.hasMeta then "Meta+" else "") ++ (if s.hasShift then "Shift+" else "") ++
    s.code.spelling

end Stroke

/-- The symbol of a key that is typed alone. -/
def KeyCode.symbol? : KeyCode → Option String
  | .char c => some (String.ofList [c])
  | .esc => some "Escape"
  | .enter => some "Enter"
  | .tab => some "Tab"
  | .backspace => some "Backspace"
  | .delete => some "Delete"
  | .left => some "ArrowLeft"
  | .right => some "ArrowRight"
  | .up => some "ArrowUp"
  | .down => some "ArrowDown"
  | .home => some "Home"
  | .endKey => some "End"
  | _ => none

/-- A shortcut has no symbol: it belongs to the application and not to the session. -/
def Stroke.symbol? (s : Stroke) : Option String :=
  if s.modifiers.control || s.modifiers.alt || s.modifiers.super then none else s.code.symbol?

/-- The two spellings of the escape key. -/
def isEscape (key : String) : Bool := key == "Escape" || key == "Esc"

end ModalKeys
