/-! The keys of a keyboard. -/
namespace ModalKeys

inductive MediaKey where
  | play | pause | playPause | reverse | stop | fastForward | rewind | trackNext | trackPrevious
  | record | lowerVolume | raiseVolume | muteVolume
  deriving DecidableEq, Repr

def MediaKey.name : MediaKey → String
  | play => "Play"
  | pause => "Pause"
  | playPause => "PlayPause"
  | reverse => "Reverse"
  | stop => "Stop"
  | fastForward => "FastForward"
  | rewind => "Rewind"
  | trackNext => "TrackNext"
  | trackPrevious => "TrackPrevious"
  | record => "Record"
  | lowerVolume => "LowerVolume"
  | raiseVolume => "RaiseVolume"
  | muteVolume => "MuteVolume"

/-- A modifier pressed as a key of its own. -/
inductive ModifierKey where
  | leftShift | leftControl | leftAlt | leftSuper | leftHyper | leftMeta
  | rightShift | rightControl | rightAlt | rightSuper | rightHyper | rightMeta
  | isoLevel3Shift | isoLevel5Shift
  deriving DecidableEq, Repr

def ModifierKey.name : ModifierKey → String
  | leftShift => "LeftShift"
  | leftControl => "LeftControl"
  | leftAlt => "LeftAlt"
  | leftSuper => "LeftSuper"
  | leftHyper => "LeftHyper"
  | leftMeta => "LeftMeta"
  | rightShift => "RightShift"
  | rightControl => "RightControl"
  | rightAlt => "RightAlt"
  | rightSuper => "RightSuper"
  | rightHyper => "RightHyper"
  | rightMeta => "RightMeta"
  | isoLevel3Shift => "IsoLevel3Shift"
  | isoLevel5Shift => "IsoLevel5Shift"

inductive KeyCode where
  | backspace | enter | left | right | up | down | home | endKey | pageUp | pageDown | tab
  | backTab | delete | insert | null | esc | capsLock | scrollLock | numLock | printScreen | pause
  | menu | keypadBegin
  | char (c : Char)
  | function (n : UInt8)
  | media (key : MediaKey)
  | modifier (key : ModifierKey)
  deriving DecidableEq, Repr

/-- How a key is written in the text of a stroke. -/
def KeyCode.spelling : KeyCode → String
  | backspace => "Backspace"
  | enter => "Enter"
  | left => "ArrowLeft"
  | right => "ArrowRight"
  | up => "ArrowUp"
  | down => "ArrowDown"
  | home => "Home"
  | endKey => "End"
  | pageUp => "PageUp"
  | pageDown => "PageDown"
  | tab => "Tab"
  | backTab => "BackTab"
  | delete => "Delete"
  | insert => "Insert"
  | null => "Null"
  | esc => "Esc"
  | capsLock => "CapsLock"
  | scrollLock => "ScrollLock"
  | numLock => "NumLock"
  | printScreen => "PrintScreen"
  | pause => "Pause"
  | menu => "Menu"
  | keypadBegin => "KeypadBegin"
  | char c => String.ofList [c]
  | function n => "F(" ++ n.toNat.repr ++ ")"
  | media key => "Media(" ++ key.name ++ ")"
  | modifier key => "Modifier(" ++ key.name ++ ")"

end ModalKeys
