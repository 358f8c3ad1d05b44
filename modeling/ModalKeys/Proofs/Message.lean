import ModalKeys.Proofs.Json.Reading
import ModalKeys.Session.Event

/-! Messages are read back from their text, and a session takes the text of a message for the event
that says the same. -/
namespace ModalKeys

namespace Json

variable {depth : Nat} {m m' : String × Value} {cs cs' : List Char}

/-- A member without white space. -/
theorem writesMember_encode (name : String) {v : Value} (h : WritesScalar v cs) :
    WritesMember (WritesValue depth) (name, v) ((encode name).toList ++ ':' :: cs) := by
  have hmember := WritesMember.named (writesString_encode name) .nil .nil (h.value depth)
  simpa using hmember

/-- An object of two members without white space. -/
theorem writesValue_pair (h : WritesMember (WritesValue depth) m cs)
    (h' : WritesMember (WritesValue depth) m' cs') :
    WritesValue (depth + 1) (.object [m, m']) ('\x7b' :: (cs ++ ',' :: (cs' ++ ['\x7d']))) := by
  have hothers : Concat (WritesNext (WritesMember (WritesValue depth))) [m'] (',' :: cs') := by
    simpa using Concat.cons (.comma .nil .nil h') .nil
  exact .inr (.inr ⟨_, rfl, .items .nil h hothers .nil⟩)

end Json

namespace HostMessage

open Json

/-- The members of the object that a message is written as. -/
def members : HostMessage → List (String × Value)
  | toggleInsertMode enabled => [("type", .string "toggleInsertMode"), ("enabled", .bool enabled)]
  | setMode mode => [("type", .string "setMode"), ("mode", .string mode)]

theorem ofValue?_members (message : HostMessage) :
    ofValue? (.object message.members) = some message := by
  cases message with
  | toggleInsertMode enabled => simp [members, ofValue?, only?, ofKind?]
  | setMode mode => simp [members, ofValue?, only?, ofKind?]

/-- The text of an object of two members, the first a string. -/
def pairText (name text name' value : String) : String :=
  "\x7b" ++ encode name ++ ":" ++ encode text ++ "," ++ encode name' ++ ":" ++ value ++ "\x7d"

theorem toJson_toggleInsertMode (enabled : Bool) :
    (toggleInsertMode enabled).toJson =
      pairText "type" "toggleInsertMode" "enabled" (if enabled then "true" else "false") := by
  change "\x7b\"type\":\"toggleInsertMode\",\"enabled\":" ++
    (if enabled then "true" else "false") ++ "\x7d" = _
  simp [pairText, encode, encodeChar]

theorem toJson_setMode (mode : String) :
    (setMode mode).toJson = pairText "type" "setMode" "mode" (encode mode) := by
  change "\x7b\"type\":\"setMode\",\"mode\":" ++ encode mode ++ "\x7d" = _
  simp [pairText, encode, encodeChar]

theorem writesValue_pairText {depth : Nat} {v : Value} {value : String} (name text name' : String)
    (h : WritesScalar v value.toList) :
    WritesValue (depth + 1) (.object [(name, .string text), (name', v)])
      (pairText name text name' value).toList := by
  have htext : WritesScalar (.string text) (encode text).toList :=
    .string (writesString_encode text)
  have hfirst : WritesMember (WritesValue depth) _ _ := writesMember_encode name htext
  simpa [pairText] using writesValue_pair hfirst (writesMember_encode name' h)

theorem writesValue_toJson (depth : Nat) (message : HostMessage) :
    WritesValue (depth + 1) (.object message.members) message.toJson.toList := by
  cases message with
  | toggleInsertMode enabled =>
    rw [toJson_toggleInsertMode]
    refine writesValue_pairText "type" "toggleInsertMode" "enabled" ?_
    cases enabled
    · exact .false
    · exact .true
  | setMode mode =>
    rw [toJson_setMode]
    exact writesValue_pairText "type" "setMode" "mode" (.string (writesString_encode mode))

theorem parse?_toJson (message : HostMessage) : parse? message.toJson = some message := by
  have hvalue := parse?_text .nil (writesValue_toJson 126 message) .nil
  rw [List.nil_append, List.append_nil, String.ofList_toList] at hvalue
  rw [parse?, hvalue, Option.bind_some, ofValue?_members]

/-- The event that says the same as a message; a message that names no mode says nothing. -/
def event? : HostMessage → Option HostEvent
  | toggleInsertMode enabled => some (.toggle enabled)
  | setMode name =>
    match Mode.parse name with
    | .ok mode => some (.setMode mode)
    | .error _ => none

/-- A message is read back from its text, and a session that gets the text does what it does on the
event that says the same, whatever state it is in; if the message names no mode the session stays
exactly as it is. -/
theorem acts_like_event (message : HostMessage) :
    parse? message.toJson = some message ∧
      ∀ {σ : Type} (E : Editor σ) (m : Machine σ) (now : Nat),
        m.handle E now (.message message.toJson) =
          (message.event?.map (m.handle E now)).getD (none, m) := by
  refine ⟨message.parse?_toJson, fun E m now => ?_⟩
  have hmode : HostEvent.requestedMode? (.message message.toJson) = message.requestedMode? := by
    rw [HostEvent.requestedMode?, parse?_toJson, Option.bind_some]
  cases message with
  | toggleInsertMode enabled =>
    simp only [Machine.handle, hmode]
    rfl
  | setMode name =>
    cases h : Mode.parse name with
    | ok mode =>
      have hrequested : (setMode name).requestedMode? = some mode := by
        rw [requestedMode?, h, Except.toOption]
      simp only [Machine.handle, hmode, hrequested, event?, h]
      rfl
    | error e =>
      have hrequested : (setMode name).requestedMode? = none := by
        rw [requestedMode?, h, Except.toOption]
      simp only [Machine.handle, hmode, hrequested, event?, h]
      rfl

end HostMessage
end ModalKeys
