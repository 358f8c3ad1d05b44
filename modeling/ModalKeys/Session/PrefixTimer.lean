/-! The time limit of an open two-key command. Every arming has a generation of its own, so an
expiry that comes late is told from a live one. -/
namespace ModalKeys

/-- A key that waits for its partner until the deadline. -/
structure Armed where
  generation : Nat
  key : String
  deadline : Nat
  deriving DecidableEq, Repr

/-- Times are in milliseconds. -/
structure PrefixTimer where
  timeout : Nat := 500
  generation : Nat := 0
  armed : Option Armed := none
  deriving DecidableEq, Repr, Inhabited

namespace PrefixTimer

/-- Takes a new generation; a key that was armed before is forgotten. -/
def arm (t : PrefixTimer) (now : Nat) (key : String) : PrefixTimer :=
  { t with
    generation := t.generation + 1
    armed := some ⟨t.generation + 1, key, now + t.timeout⟩ }

/-- Forgets the armed key and its generation. -/
def cancel (t : PrefixTimer) : PrefixTimer :=
  if t.armed.isSome then { t with generation := t.generation + 1, armed := none } else t

/-- Hands out the armed key if it is of the given generation. -/
def take (t : PrefixTimer) (generation : Nat) : Option Armed × PrefixTimer :=
  match t.armed with
  | some a => if a.generation = generation then (some a, { t with armed := none }) else (none, t)
  | none => (none, t)

/-- The armed key whose deadline has come. -/
def due? (t : PrefixTimer) (now : Nat) : Option Armed :=
  t.armed.filter fun a => a.deadline ≤ now

end PrefixTimer
end ModalKeys
