import ModalKeys.Proofs.Message

/-! A message is read from the members of its object that it asks for, wherever they stand and
however they are written; each of them must be there once, the others do not matter. -/
namespace ModalKeys

namespace Json

/-! ## Members that are there once -/

/-- The member is there and no other has its name. -/
structure IsOnly (m : String × Value) (members : List (String × Value)) : Prop where
  mem : m ∈ members
  once : (members.map Prod.fst).count m.1 = 1

variable {name : String} {v : Value} {m : String × Value}
  {members before after : List (String × Value)}

theorem length_filter_name (name : String) (members : List (String × Value)) :
    (members.filter (·.1 == name)).length = (members.map Prod.fst).count name := by
  rw [List.count, List.countP_map, List.countP_eq_length_filter]
  rfl

theorem only?_eq_some_iff : only? name members = some v ↔ IsOnly (name, v) members := by
  have hlength := length_filter_name name members
  constructor
  · intro h
    rw [only?] at h
    split at h
    · next n w hfilter =>
      cases h
      have hmem : (n, v) ∈ members.filter (·.1 == name) := by simp [hfilter]
      obtain ⟨hmember, hname⟩ := List.mem_filter.mp hmem
      obtain rfl : n = name := by simpa using hname
      refine ⟨hmember, ?_⟩
      rw [← hlength, hfilter]
      rfl
    · cases h
  · rintro ⟨hmem, honce⟩
    obtain ⟨m, hfilter⟩ := List.length_eq_one_iff.mp (hlength.trans honce)
    have hm : (name, v) ∈ members.filter (·.1 == name) := by simpa using hmem
    obtain rfl : (name, v) = m := by simpa [hfilter] using hm
    rw [only?, hfilter]

theorem IsOnly.value_eq {w : Value} (h : IsOnly (name, v) members)
    (h' : IsOnly (name, w) members) : v = w :=
  Option.some.inj ((only?_eq_some_iff.mpr h).symm.trans (only?_eq_some_iff.mpr h'))

theorem count_insert (name other : String) (v : Value) (before after : List (String × Value)) :
    ((before ++ (name, v) :: after).map Prod.fst).count other =
      ((before ++ after).map Prod.fst).count other + if name = other then 1 else 0 := by
  simp only [List.map_append, List.map_cons, List.count_append, List.count_cons, beq_iff_eq,
    Nat.add_assoc]

/-- A member of another name changes nothing. -/
theorem IsOnly.insert (h : IsOnly m (before ++ after)) (hne : name ≠ m.1) (v : Value) :
    IsOnly m (before ++ (name, v) :: after) where
  mem := by
    rcases List.mem_append.mp h.mem with hbefore | hafter
    · exact List.mem_append_left _ hbefore
    · exact List.mem_append_right _ (List.mem_cons_of_mem _ hafter)
  once := by rw [count_insert, h.once, if_neg hne]

/-- Of two members of one name neither is the only one. -/
theorem IsOnly.not_insert (h : IsOnly m (before ++ after)) (v w : Value) :
    ¬ IsOnly (m.1, w) (before ++ (m.1, v) :: after) := by
  intro hsecond
  have htwice := hsecond.once
  rw [count_insert, h.once, if_pos rfl] at htwice
  cases htwice

/-! ## Texts of a value -/

/-- A text of a value, with white space around it. -/
inductive WritesText (v : Value) (text : String) : Prop where
  | padded {b cs b' : List Char} (before : IsBlank b) (value : WritesValue maxDepth v cs)
      (after : IsBlank b') (whole : text.toList = b ++ (cs ++ b')) : WritesText v text

theorem WritesText.parse? {text : String} (h : WritesText v text) : parse? text = some v := by
  obtain ⟨before, value, after, whole⟩ := h
  have hread := parse?_text before value after
  rwa [← whole, String.ofList_toList] at hread

end Json

namespace HostMessage

open Json

variable {message : HostMessage} {kind : String} {members : List (String × Value)}

/-- The names that a message's kind goes by. -/
def kinds : HostMessage → List String
  | toggleInsertMode _ => ["toggleInsertMode", "toggleCommandMode"]
  | setMode _ => ["setMode"]

/-- The member that a message's kind asks for. -/
def argument : HostMessage → String × Value
  | toggleInsertMode enabled => ("enabled", .bool enabled)
  | setMode mode => ("mode", .string mode)

theorem ofKind?_eq_some_iff {read : String → Option Value} :
    ofKind? kind read = some message ↔
      kind ∈ message.kinds ∧ read message.argument.1 = some message.argument.2 := by
  constructor
  · intro h
    unfold ofKind? at h
    split at h
    · split at h
      · next enabled hread =>
        cases h
        exact ⟨by simp [kinds], hread⟩
      · cases h
    · split at h
      · next enabled hread =>
        cases h
        exact ⟨by simp [kinds], hread⟩
      · cases h
    · split at h
      · next mode hread =>
        cases h
        exact ⟨by simp [kinds], hread⟩
      · cases h
    · cases h
  · rintro ⟨hkind, hread⟩
    cases message with
    | toggleInsertMode enabled =>
      rw [argument] at hread
      rcases hkind with _ | ⟨_, _ | ⟨_, ⟨⟩⟩⟩ <;> simp [ofKind?, hread]
    | setMode mode =>
      rw [argument] at hread
      rcases hkind with _ | ⟨_, ⟨⟩⟩
      simp [ofKind?, hread]

theorem argument_name {message' : HostMessage} (h : kind ∈ message.kinds)
    (h' : kind ∈ message'.kinds) : message.argument.1 = message'.argument.1 := by
  cases message <;> cases message' <;> simp_all [kinds, argument]

theorem ofValue?_object_eq_some_iff : ofValue? (.object members) = some message ↔
    ∃ kind ∈ message.kinds, IsOnly ("type", .string kind) members ∧
      IsOnly message.argument members := by
  have hargument : IsOnly message.argument members ↔
      only? message.argument.1 members = some message.argument.2 := only?_eq_some_iff.symm
  simp only [hargument, ← only?_eq_some_iff]
  constructor
  · intro h
    rw [ofValue?] at h
    split at h
    · next kind htype =>
      obtain ⟨hkind, hread⟩ := ofKind?_eq_some_iff.mp h
      exact ⟨kind, hkind, htype, hread⟩
    · cases h
  · rintro ⟨kind, hkind, htype, hread⟩
    rw [ofValue?, htype]
    exact ofKind?_eq_some_iff.mpr ⟨hkind, hread⟩

theorem parse?_object {text : String} (h : WritesText (.object members) text) :
    parse? text = ofValue? (.object members) := by
  rw [parse?, h.parse?, Option.bind_some]

/-- With a second member of either name the object is no message, whatever the second value is. -/
theorem ofValue?_insert {before after : List (String × Value)} (hkind : kind ∈ message.kinds)
    (htype : IsOnly ("type", .string kind) (before ++ after))
    (hargument : IsOnly message.argument (before ++ after)) {name : String}
    (hname : name ∈ ["type", message.argument.1]) (v : Value) :
    ofValue? (.object (before ++ (name, v) :: after)) = none := by
  rw [Option.eq_none_iff_forall_not_mem]
  intro message' h
  obtain ⟨kind', hkind', htype', hargument'⟩ := ofValue?_object_eq_some_iff.mp h
  by_cases hnameType : name = "type"
  · subst hnameType
    exact htype.not_insert v _ htype'
  · obtain rfl : name = message.argument.1 := by simpa [hnameType] using hname
    -- the kind is still known, so the other message would ask for the same member
    obtain rfl : kind = kind' := by
      simpa using (htype.insert hnameType v).value_eq htype'
    have hsame : message'.argument = (message.argument.1, message'.argument.2) :=
      Prod.ext (argument_name hkind' hkind) rfl
    rw [hsame] at hargument'
    exact hargument.not_insert v _ hargument'

/-- An object in which the kind and the member of that kind are there once is read as their message,
in every order of the members, among any others and in every spelling; a second kind, or a second
member of that name, spoils it wherever it is put. -/
theorem reads_members (hkind : kind ∈ message.kinds)
    (htype : IsOnly ("type", .string kind) members) (hargument : IsOnly message.argument members) :
    (∀ text, WritesText (.object members) text → parse? text = some message) ∧
    ∀ name ∈ ["type", message.argument.1], ∀ (v : Value) (before after : List (String × Value)),
      members = before ++ after →
        ∀ text, WritesText (.object (before ++ (name, v) :: after)) text → parse? text = none := by
  constructor
  · intro text htext
    rw [parse?_object htext]
    exact ofValue?_object_eq_some_iff.mpr ⟨kind, hkind, htype, hargument⟩
  · rintro name hname v before after rfl text htext
    rw [parse?_object htext]
    exact ofValue?_insert hkind htype hargument hname v

/-- The member of the other kind is a foreign one, and the kind's own name may be escaped. -/
theorem reads_members_escaped :
    let members : List (String × Value) :=
      [("enabled", .array []), ("mode", .string "off"), ("type", .string "setMode")]
    "setMode" ∈ (setMode "off").kinds ∧ IsOnly ("type", .string "setMode") members ∧
      IsOnly (setMode "off").argument members ∧
      parse? "\x7b\"enabled\":[] ,\"mode\":\"off\",\"\\u0074ype\":\"setMode\"\x7d\n" =
        some (.setMode "off") ∧
      parse? "\x7b\"enabled\":[],\"mode\":\"off\",\"mode\":null,\"type\":\"setMode\"\x7d" =
        none := by
  intro members
  have henabled : WritesMember (WritesValue 126) ("enabled", .array [])
      "\"enabled\":[]".toList :=
    .named (writesString_encode "enabled") .nil .nil (.inr (.inl ⟨[], rfl, .none .nil⟩))
  have hmode : WritesMember (WritesValue 126) ("mode", .string "off") "\"mode\":\"off\"".toList :=
    writesMember_encode "mode" (.string (writesString_encode "off"))
  have hnull : WritesMember (WritesValue 126) ("mode", .null) "\"mode\":null".toList :=
    writesMember_encode "mode" .null
  have hkind : WritesScalar (.string "setMode") "\"setMode\"".toList :=
    .string (writesString_encode "setMode")
  have htype : WritesMember (WritesValue 126) ("type", .string "setMode")
      "\"type\":\"setMode\"".toList := writesMember_encode "type" hkind
  have hletter : WritesChar 't' "\\u0074".toList :=
    .unit (n := 0x74) ⟨rfl, List.all_eq_true.mp rfl, rfl⟩ (.inl (by decide))
  have hname : WritesString "type" "\"\\u0074ype\"".toList :=
    .quoted (.cons hletter (.flatMap writesChar_encodeChar ['y', 'p', 'e']))
  have hescaped : WritesMember (WritesValue 126) ("type", .string "setMode")
      "\"\\u0074ype\":\"setMode\"".toList := .named hname .nil .nil (.inl hkind)
  have hspace : IsBlank [' '] := by simp [IsBlank, isSpace]
  have hline : IsBlank ['\n'] := by simp [IsBlank, isSpace]
  have hkinds : "setMode" ∈ (setMode "off").kinds := by decide
  have honlyType : IsOnly ("type", .string "setMode") members := ⟨by simp [members], by decide⟩
  have honlyMode : IsOnly (setMode "off").argument members :=
    ⟨by simp [members, argument], by decide⟩
  obtain ⟨hreads, hspoils⟩ := reads_members hkinds honlyType honlyMode
  refine ⟨hkinds, honlyType, honlyMode, hreads _ ?_,
    hspoils "mode" (by simp [argument]) .null (members.take 2) (members.drop 2) rfl _ ?_⟩
  · exact .padded .nil (.inr (.inr ⟨members, rfl, .items .nil henabled
      (.cons (.comma hspace .nil hmode) (.cons (.comma .nil .nil hescaped) .nil)) .nil⟩)) hline
      (by simp)
  · exact .padded .nil (.inr (.inr ⟨_, rfl, .items .nil henabled
      (.cons (.comma .nil .nil hmode)
        (.cons (.comma .nil .nil hnull) (.cons (.comma .nil .nil htype) .nil))) .nil⟩)) .nil
      (by simp)

end HostMessage
end ModalKeys
