import Mathlib.Logic.ExistsUnique
import ModalKeys.Session.Grammar

/-! The language of command mode. A list of keys is a phrase: complete commands one after the other,
then one that is still open. Every list is exactly one phrase, and the single slot of a session is
enough to follow it. -/
namespace ModalKeys.Grammar

/-- A key that opens a command and times out. -/
inductive PrefixKey where
  | g | y | d
  deriving DecidableEq, Repr

namespace PrefixKey

def key : PrefixKey → String
  | g => "g"
  | y => "y"
  | d => "d"

/-- What the key does when it is typed twice. -/
def doubled : PrefixKey → Action
  | g => .documentStart
  | y => .yankLine
  | d => .deleteLine

end PrefixKey

/-- What has been typed of a command that is not complete: nothing, a prefix key, or colons, of
which the first may have taken the place of a prefix key. There is one colon more than counted. -/
inductive Opening where
  | empty
  | first (key : PrefixKey)
  | colons (replaced : Option PrefixKey) (more : Nat)
  deriving DecidableEq, Repr

namespace Opening

def keys : Opening → List String
  | empty => []
  | first p => [p.key]
  | colons replaced more => (replaced.map PrefixKey.key).toList ++ List.replicate (more + 1) ":"

def reactions : Opening → List Reaction
  | empty => []
  | first p => [.arm p.key]
  | colons replaced more =>
    (replaced.map fun p => .arm p.key).toList ++ List.replicate (more + 1) .pending

/-- The key makes the command complete. A colon never does, and a prefix key does not stand
alone. -/
def ClosedBy : Opening → String → Prop
  | empty, key => key ∉ [":", "g", "y", "d"]
  | first _, key => key ≠ ":"
  | colons _ _, key => key ≠ ":"

instance : (o : Opening) → (key : String) → Decidable (o.ClosedBy key)
  | empty, _ => inferInstanceAs (Decidable (_ ∉ _))
  | first _, _ => inferInstanceAs (Decidable (_ ≠ _))
  | colons _ _, _ => inferInstanceAs (Decidable (_ ≠ _))

/-- What the command does that the key completes. -/
def action? : Opening → String → Option Action
  | empty, key => single? key
  | first p, key => if key = p.key then some p.doubled else none
  | colons _ _, key => if key = "q" then some .quit else none

/-- The opening once a key has come that does not close it. -/
def extend : Opening → String → Opening
  | empty, "g" => first .g
  | empty, "y" => first .y
  | empty, "d" => first .d
  | empty, _ => colons none 0
  | first p, _ => colons (some p) 0
  | colons replaced more, _ => colons replaced (more + 1)

/-- The key that came last, which is the one to be kept. -/
def slot (o : Opening) : String := o.keys.getLast?.getD ""

end Opening

/-- A complete command: an opening and the key that closes it. -/
structure Segment where
  opening : Opening
  last : String
  closed : opening.ClosedBy last
  deriving DecidableEq, Repr

namespace Segment

def keys (s : Segment) : List String := s.opening.keys ++ [s.last]

def reactions (s : Segment) : List Reaction :=
  s.opening.reactions ++ [actOr (s.opening.action? s.last)]

end Segment

/-- Complete commands, and what is open after them. -/
structure Phrase where
  segments : List Segment := []
  tail : Opening := .empty
  deriving DecidableEq, Repr

namespace Phrase

def keys (p : Phrase) : List String := p.segments.flatMap Segment.keys ++ p.tail.keys

def reactions (p : Phrase) : List Reaction :=
  p.segments.flatMap Segment.reactions ++ p.tail.reactions

/-- The state after the phrase: the slot holds the last key that is open, and the last key of the
last complete command is remembered. -/
def after (p : Phrase) (s : State) : State :=
  { s with
    pending := p.tail.slot
    last := (p.segments.getLast?.map Segment.last).getD s.last }

/-- One key more. -/
def push (p : Phrase) (key : String) : Phrase :=
  if h : p.tail.ClosedBy key then ⟨p.segments ++ [⟨p.tail, key, h⟩], .empty⟩
  else { p with tail := p.tail.extend key }

end Phrase

/-- Reads keys one after the other. -/
def commandKeys : List String → State → List Reaction × State
  | [], s => ([], s)
  | key :: keys, s =>
    let (reaction, s) := commandKey key s
    let (reactions, s) := commandKeys keys s
    (reaction :: reactions, s)

/-! ## One key -/

namespace Opening

@[simp] theorem slot_empty : slot empty = "" := rfl

@[simp] theorem slot_first (p : PrefixKey) : slot (first p) = p.key := rfl

@[simp] theorem slot_colons (replaced : Option PrefixKey) (more : Nat) :
    slot (colons replaced more) = ":" := by
  simp [slot, keys, List.replicate_succ']

theorem not_closedBy {o : Opening} {key : String} (h : ¬ o.ClosedBy key) :
    key = ":" ∨ o = empty ∧ ∃ p : PrefixKey, key = p.key := by
  cases o with
  | empty =>
    have hkey : key ∈ [":", "g", "y", "d"] := Decidable.not_not.mp h
    simp only [List.mem_cons, List.not_mem_nil, or_false] at hkey
    rcases hkey with rfl | rfl | rfl | rfl
    · exact .inl rfl
    · exact .inr ⟨rfl, .g, rfl⟩
    · exact .inr ⟨rfl, .y, rfl⟩
    · exact .inr ⟨rfl, .d, rfl⟩
  | first p => exact .inl (by simpa [ClosedBy] using h)
  | colons replaced more => exact .inl (by simpa [ClosedBy] using h)

theorem extend_key (p : PrefixKey) : empty.extend p.key = first p := by
  cases p <;> rfl

theorem keys_extend {o : Opening} {key : String} (h : ¬ o.ClosedBy key) :
    (o.extend key).keys = o.keys ++ [key] := by
  rcases not_closedBy h with rfl | ⟨rfl, p, rfl⟩
  · cases o with
    | empty => rfl
    | first p => rfl
    | colons replaced more => simp [extend, keys, List.replicate_succ' (n := more + 1)]
  · rw [extend_key]
    rfl

end Opening

@[simp] theorem isPrefixKey_key (p : PrefixKey) : isPrefixKey p.key := by
  cases p <;> rfl

theorem resolve?_prefixKey (p : PrefixKey) (key : String) :
    resolve? p.key key = if key = p.key then some p.doubled else none := by
  split
  · rename_i h
    subst h
    cases p <;> rfl
  · rename_i h
    unfold resolve?
    cases p <;> split <;> simp_all [PrefixKey.key]

theorem resolve?_colon (key : String) :
    resolve? ":" key = if key = "q" then some .quit else none := by
  unfold resolve?
  split <;> simp_all

theorem commandKey_closedBy {o : Opening} {key : String} {s : State} (h : o.ClosedBy key)
    (hs : s.pending = o.slot) :
    commandKey key s = (actOr (o.action? key), { s with pending := "", last := key }) := by
  have hcolon : key ≠ ":" := by
    rintro rfl
    cases o <;> simp [Opening.ClosedBy] at h
  cases o with
  | empty =>
    have hplain : isPrefixKey key = false := by
      simp only [Opening.ClosedBy, List.mem_cons, List.not_mem_nil, or_false, not_or] at h
      simp [isPrefixKey, h]
    -- a single key does not write to the slot, which has to be empty already
    have hempty : s = { s with pending := "" } := by rw [← hs.trans Opening.slot_empty]
    rw [hempty]
    simp [commandKey, State.hasPending, hcolon, hplain, Opening.action?]
  | first p =>
    have hopen : s.hasPending := by
      cases p <;> simp [State.hasPending, hs, PrefixKey.key]
    rw [commandKey, if_neg hcolon, if_pos hopen, hs, Opening.slot_first, resolve?_prefixKey]
    rfl
  | colons replaced more =>
    have hopen : s.hasPending := by simp [State.hasPending, hs]
    rw [commandKey, if_neg hcolon, if_pos hopen, hs, Opening.slot_colons, resolve?_colon]
    rfl

theorem commandKey_extend {o : Opening} {key : String} {s : State} (h : ¬ o.ClosedBy key)
    (hs : s.pending = o.slot) :
    ∃ r, commandKey key s = (r, { s with pending := (o.extend key).slot }) ∧
      (o.extend key).reactions = o.reactions ++ [r] := by
  rcases Opening.not_closedBy h with rfl | ⟨rfl, p, rfl⟩
  · refine ⟨.pending, ?_, ?_⟩
    · cases o <;> simp [commandKey, Opening.extend]
    · cases o with
      | empty => rfl
      | first p => rfl
      | colons replaced more =>
        simp [Opening.extend, Opening.reactions, List.replicate_succ' (n := more + 1)]
  · have hcolon : p.key ≠ ":" := by cases p <;> decide
    refine ⟨.arm p.key, ?_, ?_⟩
    · simp [Opening.extend_key, commandKey, State.hasPending, hs, hcolon]
    · rw [Opening.extend_key]
      rfl

/-! ## Phrases -/

namespace Phrase

theorem push_closedBy {p : Phrase} {key : String} (h : p.tail.ClosedBy key) :
    p.push key = ⟨p.segments ++ [⟨p.tail, key, h⟩], .empty⟩ := dif_pos h

theorem push_extend {p : Phrase} {key : String} (h : ¬ p.tail.ClosedBy key) :
    p.push key = { p with tail := p.tail.extend key } := dif_neg h

theorem keys_push (p : Phrase) (key : String) : (p.push key).keys = p.keys ++ [key] := by
  by_cases h : p.tail.ClosedBy key
  · simp [push_closedBy h, keys, Segment.keys, Opening.keys]
  · simp [push_extend h, keys, Opening.keys_extend h]

theorem keys_foldl_push (keys : List String) (p : Phrase) :
    (keys.foldl push p).keys = p.keys ++ keys := by
  induction keys generalizing p with
  | nil => simp
  | cons key keys ih => simp [ih, keys_push]

theorem foldl_push_opening (segments : List Segment) (o : Opening) :
    o.keys.foldl push ⟨segments, .empty⟩ = ⟨segments, o⟩ := by
  have hopen (p : PrefixKey) : push ⟨segments, .empty⟩ p.key = ⟨segments, .first p⟩ := by
    cases p <;> rfl
  have hcolons (replaced : Option PrefixKey) (more : Nat) :
      (List.replicate more ":").foldl push ⟨segments, .colons replaced 0⟩ =
        ⟨segments, .colons replaced more⟩ := by
    induction more with
    | zero => rfl
    | succ more ih =>
      rw [List.replicate_succ', List.foldl_append, ih]
      rfl
  cases o with
  | empty => rfl
  | first p => exact hopen p
  | colons replaced more =>
    have hfirst : (replaced.map PrefixKey.key).toList.foldl push ⟨segments, .empty⟩ =
        ⟨segments, (replaced.map Opening.first).getD .empty⟩ := by
      cases replaced with
      | none => rfl
      | some p => exact hopen p
    -- the first colon takes the place of the prefix key, the others are counted
    rw [Opening.keys, List.foldl_append, hfirst, List.replicate_succ, List.foldl_cons]
    cases replaced with
    | none => exact hcolons none more
    | some p => exact hcolons (some p) more

theorem foldl_push_segments (segments later : List Segment) :
    (later.flatMap Segment.keys).foldl push ⟨segments, .empty⟩ =
      ⟨segments ++ later, .empty⟩ := by
  induction later generalizing segments with
  | nil => simp
  | cons s later ih =>
    have hsegment : s.keys.foldl push ⟨segments, .empty⟩ = ⟨segments ++ [s], .empty⟩ := by
      rw [Segment.keys, List.foldl_append, foldl_push_opening]
      exact push_closedBy (p := ⟨segments, s.opening⟩) s.closed
    rw [List.flatMap_cons, List.foldl_append, hsegment, ih, List.append_assoc,
      List.singleton_append]

def ofKeys (keys : List String) : Phrase := keys.foldl push {}

theorem keys_ofKeys (keys : List String) : (ofKeys keys).keys = keys := keys_foldl_push keys {}

/-- A phrase can be told from its keys. -/
theorem ofKeys_keys (p : Phrase) : ofKeys p.keys = p := by
  rw [ofKeys, keys, List.foldl_append, foldl_push_segments, List.nil_append, foldl_push_opening]

/-- Reading one key more makes the phrase one key longer. -/
theorem commandKey_after (p : Phrase) (key : String) (s : State) :
    ∃ r, commandKey key (p.after s) = (r, (p.push key).after s) ∧
      (p.push key).reactions = p.reactions ++ [r] := by
  by_cases h : p.tail.ClosedBy key
  · refine ⟨actOr (p.tail.action? key), ?_, ?_⟩
    · rw [commandKey_closedBy h rfl, push_closedBy h]
      simp [after]
    · simp [push_closedBy h, reactions, Segment.reactions, Opening.reactions]
  · obtain ⟨r, hread, hreactions⟩ := commandKey_extend (s := p.after s) h rfl
    refine ⟨r, ?_, ?_⟩
    · rw [hread, push_extend h]
      rfl
    · simp [push_extend h, reactions, hreactions]

theorem commandKeys_after (keys : List String) (p : Phrase) (s : State) :
    ∃ rs, commandKeys keys (p.after s) = (rs, (keys.foldl push p).after s) ∧
      (keys.foldl push p).reactions = p.reactions ++ rs := by
  -- the state is always the one after the phrase so far, so that is what each key starts from
  induction keys generalizing p with
  | nil => exact ⟨[], rfl, by simp⟩
  | cons key keys ih =>
    obtain ⟨r, hkey, hfirst⟩ := p.commandKey_after key s
    obtain ⟨rs, hkeys, hlater⟩ := ih (p.push key)
    refine ⟨r :: rs, ?_, ?_⟩
    · simp [commandKeys, hkey, hkeys]
    · simp [hlater, hfirst]

theorem commandKeys_keys (p : Phrase) {s : State} (hs : s.pending = "") :
    commandKeys p.keys s = (p.reactions, p.after s) := by
  have hstart : after {} s = s := by simp [after, ← hs]
  obtain ⟨rs, hread, hreactions⟩ := commandKeys_after p.keys {} s
  have hwhole : p.keys.foldl push {} = p := p.ofKeys_keys
  rw [hwhole] at hread hreactions
  have hrs : p.reactions = rs := hreactions
  rw [hstart] at hread
  rw [hread, hrs]

end Phrase

/-- Every list of keys is exactly one phrase, and on an empty slot command mode reads it so: the
reactions are those of the phrase, and nothing but the two slots has changed in the end. -/
theorem commandKeys_eq_phrase (keys : List String) (s : State) (hs : s.pending = "") :
    (∃! p : Phrase, p.keys = keys) ∧
      ∀ p : Phrase, p.keys = keys → commandKeys keys s = (p.reactions, p.after s) := by
  refine ⟨⟨.ofKeys keys, Phrase.keys_ofKeys keys, ?_⟩, ?_⟩
  · intro p hp
    rw [← hp, p.ofKeys_keys]
  · intro p hp
    rw [← hp]
    exact p.commandKeys_keys hs

/-- A colon takes the place of an open deletion and is repeated; the keys after it are read from an
empty slot again, a prefix key as a second key among them. -/
theorem commandKeys_eq_phrase_colons :
    let s : State := { mode := .command, last := "u" }
    let keys := ["d", ":", ":", "q", "g", "d", "y", "y", "h", "y", ":"]
    let p : Phrase :=
      { segments := [⟨.colons (some .d) 1, "q", by decide⟩, ⟨.first .g, "d", by decide⟩,
          ⟨.first .y, "y", by decide⟩, ⟨.empty, "h", by decide⟩]
        tail := .colons (some .y) 0 }
    s.pending = "" ∧ p.keys = keys ∧ (∀ p' : Phrase, p'.keys = keys → p' = p) ∧
      commandKeys keys s =
        ([.arm "d", .pending, .pending, .act .quit, .arm "g", .consumed, .arm "y", .act .yankLine,
          .act (.moveCursor .left), .arm "y", .pending], { s with pending := ":", last := "h" }) := by
  intro s keys p
  have hs : s.pending = "" := rfl
  have hkeys : p.keys = keys := by decide
  obtain ⟨hunique, hread⟩ := commandKeys_eq_phrase keys s hs
  refine ⟨hs, hkeys, fun p' hp' => hunique.unique hp' hkeys, ?_⟩
  rw [hread p hkeys]
  decide

end ModalKeys.Grammar
