import ModalKeys.InvalidValue
import ModalKeys.Mode
import ModalKeys.Platform
import ModalKeys.Toml.Reader

/-! The settings of a session, read from TOML text and written back. -/
namespace ModalKeys

structure Config where
  /-- How long a two-key command stays open, in milliseconds. -/
  prefixTimeout : Nat := 500
  platform : PlatformSetting := .auto
  startMode : Mode := .off
  interceptTextFields : Bool := false
  deriving DecidableEq, Repr, Inhabited

inductive ConfigError where
  /-- The text could not be read. -/
  | io (detail : String)
  /-- The text is no TOML, or a setting has a value of the wrong kind. -/
  | parse (detail : String)
  | invalid (e : InvalidValue)
  deriving DecidableEq, Repr

def ConfigError.message : ConfigError → String
  | io detail => "IO error: " ++ detail
  | parse detail => "TOML parse error: " ++ detail
  | invalid e => e.message

namespace Config

open Toml (Value Entries)

/-- Whether a value says nothing beyond its presence. -/
def isUnit : Value → Bool
  | .table _ [] => true
  | .array [] => true
  | _ => false

/-- The name that a choice is given by: a string, or a table whose one key is the name. -/
def choice? : Value → Option String
  | .string name => some name
  | .table _ [(name, value)] => if isUnit value then some name else none
  | _ => none

/-- The setting of that name, or its default if the table does not have it. -/
def setting {α : Type} (entries : Entries) (name : String) (default : α)
    (read : Value → Option α) : Except ConfigError α :=
  match entries.lookup name with
  | none => .ok default
  | some value =>
    match read value with
    | some a => .ok a
    | none => .error (.parse ("unexpected value of " ++ name))

def readTimeout : Value → Option Nat
  | .integer n => if 0 ≤ n then some n.toNat else none
  | _ => none

def readPlatform (value : Value) : Option PlatformSetting := do
  let name ← choice? value
  [PlatformSetting.auto, .mac, .other].find? (·.name == name)

def readMode (value : Value) : Option Mode := do
  let name ← choice? value
  Mode.all.find? (·.name == name)

def readBool : Value → Option Bool
  | .bool b => some b
  | _ => none

/-- Settings that the table does not have keep their defaults; keys that are no settings are
ignored. -/
def ofEntries (entries : Entries) : Except ConfigError Config := do
  let defaults : Config := {}
  let prefixTimeout ← setting entries "prefix_timeout_ms" defaults.prefixTimeout readTimeout
  let platform ← setting entries "platform" defaults.platform readPlatform
  let startMode ← setting entries "start_mode" defaults.startMode readMode
  let interceptTextFields ←
    setting entries "intercept_text_fields" defaults.interceptTextFields readBool
  return { prefixTimeout, platform, startMode, interceptTextFields }

/-- A command that may not stay open at all could never be completed. -/
def validate (c : Config) : Except ConfigError Config :=
  if c.prefixTimeout = 0 then .error (.invalid ⟨"prefix_timeout_ms", c.prefixTimeout.repr⟩)
  else .ok c

def parse (text : String) : Except ConfigError Config :=
  match Toml.parse? text with
  | none => .error (.parse "malformed text")
  | some entries => (ofEntries entries).bind validate

/-- The lines of the settings, one for each. -/
def lines (c : Config) : List String :=
  ["prefix_timeout_ms = " ++ c.prefixTimeout.repr,
    "platform = \"" ++ c.platform.name ++ "\"",
    "start_mode = \"" ++ c.startMode.name ++ "\"",
    "intercept_text_fields = " ++ (if c.interceptTextFields then "true" else "false")]

/-- A text of lines, each with its end. -/
def unlines (lines : List String) : String := String.join (lines.map (· ++ "\n"))

def toToml (c : Config) : String := unlines c.lines

/-- What stands at the path of a configuration file. -/
inductive File where
  | missing
  /-- There is something that cannot be read as a file. -/
  | unreadable (detail : String)
  | bytes (content : ByteArray)

/-- The settings of a file that must be there. -/
def load : File → Except ConfigError Config
  | .missing => .error (.io "no such file")
  | .unreadable detail => .error (.io detail)
  | .bytes content =>
    match String.fromUTF8? content with
    | none => .error (.io "the file is not valid UTF-8")
    | some text => parse text

/-- The settings of a file, or the defaults if there is none. -/
def loadOrDefault : File → Except ConfigError Config
  | .missing => .ok {}
  | file => load file

end Config
end ModalKeys
