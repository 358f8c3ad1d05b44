import ModalKeys.Text.Blank
import ModalKeys.Text.LetterCase

/-! The modes of a session and their names. -/
namespace ModalKeys

inductive Mode where
  | off | command | insert | visual
  deriving DecidableEq, Repr, Inhabited

/-- A mode was asked for by a name that no mode has; the name is kept as it was given. -/
structure UnknownMode where
  name : String
  deriving DecidableEq, Repr

def UnknownMode.message (e : UnknownMode) : String := "Unknown mode: " ++ e.name

namespace Mode

def all : List Mode := [.off, .command, .insert, .visual]

/-- The name in configuration and messages. -/
def name : Mode → String
  | off => "off"
  | command => "command"
  | insert => "insert"
  | visual => "visual"

/-- The name on the status line. -/
def displayName : Mode → String
  | off => "OFF"
  | command => "COMMAND"
  | insert => "INSERT"
  | visual => "VISUAL"

def shortName : Mode → String
  | off => "OFF"
  | command => "CMD"
  | insert => "INS"
  | visual => "VIS"

/-- Keys reach the session in every mode but `off`. -/
def isActive (m : Mode) : Bool := m != off

/-- The mode of a trimmed name in small letters; `normal` is a second name of `command`. -/
def ofName? : String → Option Mode
  | "off" => some off
  | "command" => some command
  | "normal" => some command
  | "insert" => some insert
  | "visual" => some visual
  | _ => none

/-- Letter case and blanks around a name do not matter. -/
def parse (text : String) : Except UnknownMode Mode :=
  match ofName? (String.ofList (Text.lowercase (Text.trim text.toList))) with
  | some m => .ok m
  | none => .error ⟨text⟩

end Mode
end ModalKeys
