import ModalKeys.InvalidValue
import ModalKeys.Key.Modifiers
import ModalKeys.Text.Blank

/-! The two families of platforms, told apart by the modifiers of their shortcuts. -/
namespace ModalKeys

inductive Platform where
  | macOs | other
  deriving DecidableEq, Repr

namespace Platform

/-- The words that a browser on an Apple system has in its user agent. -/
def appleMarks : List String := ["Macintosh", "Mac OS X", "iPhone", "iPad"]

def ofUserAgent (agent : String) : Platform :=
  if appleMarks.any fun mark => Text.occursIn mark.toList agent.toList then macOs else other

/-- The modifier that makes an arrow key move by words. -/
def wordModifier : Platform → Modifiers
  | macOs => .onlyAlt
  | other => .onlyControl

/-- The modifier of the clipboard and undo shortcuts. -/
def primaryModifier : Platform → Modifiers
  | macOs => .onlySuper
  | other => .onlyControl

end Platform

/-- Which platform to serve; `auto` leaves it to the system. -/
inductive PlatformSetting where
  | auto | mac | other
  deriving DecidableEq, Repr, Inhabited

namespace PlatformSetting

def name : PlatformSetting → String
  | auto => "auto"
  | mac => "mac"
  | other => "other"

/-- Nothing tells an `auto` setting that it is on a Mac, so it means `other`. -/
def resolve : PlatformSetting → Platform
  | mac => .macOs
  | auto | other => .other

def ofName? : String → Option PlatformSetting
  | "auto" => some auto
  | "mac" => some mac
  | "macos" => some mac
  | "other" => some other
  | _ => none

/-- ASCII letter case and blanks around a name do not matter. -/
def parse (text : String) : Except InvalidValue PlatformSetting :=
  match ofName? (String.ofList ((Text.trim text.toList).map Char.toLower)) with
  | some s => .ok s
  | none => .error ⟨"platform", text⟩

end PlatformSetting
end ModalKeys
