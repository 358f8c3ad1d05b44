import ModalKeys.Proofs.Timer

/-! The whole history of a timer. Its generation counts the armings and the cancellations that met
an armed key, so every arming gets a generation that none had before; a key is handed out for the
generation of the last arming, as long as nothing has ended that, and so once at most. -/
namespace ModalKeys.PrefixTimer

/-- What is done to a timer, or time that passes. -/
inductive Use where
  | arm (key : String)
  | cancel
  | take (generation : Nat)
  | wait (span : Nat)
  deriving DecidableEq, Repr

def Use.isArm : Use → Bool
  | arm _ => true
  | _ => false

/-- The time that passes. -/
def Use.span : Use → Nat
  | wait span => span
  | _ => 0

/-- A use, its time, and the timer as it was before. -/
structure Entry where
  time : Nat
  before : PrefixTimer
  use : Use
  deriving DecidableEq, Repr

namespace Entry

/-- The key that is armed. -/
def armed? : Entry → Option Armed
  | ⟨time, t, .arm key⟩ => (t.arm time key).armed
  | _ => none

/-- The key that is handed out. -/
def taken? : Entry → Option Armed
  | ⟨_, t, .take generation⟩ => (t.take generation).1
  | _ => none

/-- Whether an armed key is cancelled. -/
def cancels (e : Entry) : Bool := e.use == .cancel && e.before.armed.isSome

/-- No key is armed, and none that is armed is cancelled or handed out. -/
structure IsIdle (e : Entry) : Prop where
  armed : e.armed? = none
  cancels : e.cancels = false
  taken : e.taken? = none

def after : Entry → PrefixTimer
  | ⟨time, t, .arm key⟩ => t.arm time key
  | ⟨_, t, .cancel⟩ => t.cancel
  | ⟨_, t, .take generation⟩ => (t.take generation).2
  | ⟨_, t, .wait _⟩ => t

end Entry

/-- A timer, the time, and what was done to the timer so far, the latest first. -/
structure History where
  time : Nat
  timer : PrefixTimer
  past : List Entry := []

namespace History

def use (h : History) (u : Use) : History :=
  let e : Entry := ⟨h.time, h.timer, u⟩
  ⟨h.time + u.span, e.after, e :: h.past⟩

def run (uses : List Use) (h : History) : History := uses.foldl use h

/-- A new timer at some time. -/
def start (timeout time : Nat) : History := ⟨time, { timeout }, []⟩

end History

/-- The key was armed last, and nothing has ended its wait since. -/
inductive Stands (a : Armed) : List Entry → Prop where
  | armed {e : Entry} {past : List Entry} (arms : e.armed? = some a) : Stands a (e :: past)
  | still {e : Entry} {past : List Entry} (idle : e.IsIdle) (before : Stands a past) :
      Stands a (e :: past)

variable {a : Armed} {e : Entry} {past : List Entry}

theorem Entry.isSome_armed? (e : Entry) : e.armed?.isSome = e.use.isArm := by
  obtain ⟨time, t, u⟩ := e
  cases u <;> rfl

theorem Entry.isArm_of_armed? (h : e.armed? = none) : e.use.isArm = false := by
  rw [← e.isSome_armed?, h]
  rfl

/-- The generation stays or goes up by one. -/
theorem Entry.after_generation (e : Entry) :
    e.before.generation ≤ e.after.generation ∧
      e.after.generation ≤ e.before.generation + 1 := by
  obtain ⟨time, t, u⟩ := e
  cases u with
  | arm key => exact ⟨Nat.le_succ _, Nat.le_refl _⟩
  | cancel => exact ⟨generation_le_cancel, cancel_generation_le⟩
  | take generation => simp [after]
  | wait span => simp [after]

theorem stands_of_idle (idle : e.IsIdle) : Stands a (e :: past) ↔ Stands a past := by
  refine ⟨fun h => ?_, .still idle⟩
  cases h with
  | armed arms => simp [idle.armed] at arms
  | still _ before => exact before

theorem stands_of_arms {b : Armed} (arms : e.armed? = some b) :
    Stands a (e :: past) ↔ a = b := by
  constructor
  · intro h
    cases h with
    | armed arms' => simpa [arms, eq_comm] using arms'
    | still idle => simp [idle.armed] at arms
  · rintro rfl
    exact .armed arms

theorem not_stands_of_ends (harmed : e.armed? = none) (ends : ¬ e.IsIdle) :
    ¬ Stands a (e :: past) := by
  intro h
  cases h with
  | armed arms => simp [harmed] at arms
  | still idle => exact ends idle

/-! ## What holds after every use -/

namespace History

/-- The keys armed so far, the latest first. -/
def armings (h : History) : List Armed := h.past.filterMap Entry.armed?

/-- The keys handed out so far, the latest first. -/
def takings (h : History) : List Armed := h.past.filterMap Entry.taken?

/-- The timer agrees with its history. -/
structure Ledger (timeout : Nat) (h : History) : Prop where
  timeout_eq : h.timer.timeout = timeout
  generation_eq : h.timer.generation = h.armings.length + h.past.countP Entry.cancels
  live : ∀ a, h.timer.armed = some a ↔ Stands a h.past
  current : ∀ a, h.timer.armed = some a → a.generation = h.timer.generation
  /-- An armed key is that of the last arming. -/
  origin : ∀ a, h.timer.armed = some a → ∃ e, h.past.find? (·.use.isArm) = some e ∧
    e.use = .arm a.key ∧ a.deadline = e.time + timeout
  passed : ∀ a ∈ h.armings, a.generation ≤ h.timer.generation
  distinct : h.armings.Pairwise fun later earlier => earlier.generation < later.generation
  /-- What is armed is the latest arming that was not handed out. -/
  taken : (h.timer.armed.toList ++ h.takings).Sublist h.armings

namespace Ledger

variable {timeout : Nat} {h : History} {t : PrefixTimer}

theorem start (timeout time : Nat) : Ledger timeout (start timeout time) where
  timeout_eq := rfl
  generation_eq := rfl
  live _ := ⟨nofun, nofun⟩
  current := nofun
  origin := nofun
  passed := nofun
  distinct := .nil
  taken := .slnil

theorem idle (l : Ledger timeout h) (idle : e.IsIdle) (time : Nat) :
    Ledger timeout ⟨time, h.timer, e :: h.past⟩ := by
  have harmings : armings ⟨time, h.timer, e :: h.past⟩ = h.armings :=
    List.filterMap_cons_none idle.armed
  have htakings : takings ⟨time, h.timer, e :: h.past⟩ = h.takings :=
    List.filterMap_cons_none idle.taken
  constructor
  case timeout_eq => exact l.timeout_eq
  case generation_eq =>
    rw [harmings, List.countP_cons_of_neg (by simp [idle.cancels])]
    exact l.generation_eq
  case live => exact fun a => (l.live a).trans (stands_of_idle idle).symm
  case current => exact l.current
  case origin =>
    intro a ha
    obtain ⟨e', he'⟩ := l.origin a ha
    rw [List.find?_cons_of_neg (by simp [Entry.isArm_of_armed? idle.armed])]
    exact ⟨e', he'⟩
  case passed => exact harmings ▸ l.passed
  case distinct => exact harmings ▸ l.distinct
  case taken =>
    rw [harmings, htakings]
    exact l.taken

theorem arm (l : Ledger timeout h) (key : String) : Ledger timeout (h.use (.arm key)) := by
  let b : Armed := ⟨h.timer.generation + 1, key, h.time + h.timer.timeout⟩
  have harms : (Entry.mk h.time h.timer (.arm key)).armed? = some b := rfl
  have harmings : (h.use (.arm key)).armings = b :: h.armings := rfl
  constructor
  case timeout_eq => exact l.timeout_eq
  case generation_eq =>
    have hgeneration := l.generation_eq
    rw [harmings, List.length_cons]
    change h.timer.generation + 1 = _ + 1 + (Entry.mk _ _ _ :: h.past).countP _
    rw [List.countP_cons_of_neg (by simp [Entry.cancels])]
    omega
  case live =>
    intro a
    refine Iff.trans ?_ (stands_of_arms harms).symm
    change some b = some a ↔ a = b
    simp [eq_comm]
  case current =>
    intro a ha
    cases ha
    rfl
  case origin =>
    intro a ha
    cases ha
    exact ⟨_, List.find?_cons_of_pos rfl, rfl, by rw [l.timeout_eq]⟩
  case passed =>
    rw [harmings, List.forall_mem_cons]
    exact ⟨Nat.le_refl _, fun a ha => Nat.le_succ_of_le (l.passed a ha)⟩
  case distinct =>
    rw [harmings, List.pairwise_cons]
    exact ⟨fun a ha => Nat.lt_succ_of_le (l.passed a ha), l.distinct⟩
  case taken =>
    rw [harmings]
    exact ((List.sublist_append_right _ _).trans l.taken).cons_cons b

/-- An armed key is gone after it was cancelled or handed out. -/
theorem ends (l : Ledger timeout h) (harmed : e.armed? = none) (hends : ¬ e.IsIdle)
    (htimeout : t.timeout = h.timer.timeout) (hunarmed : t.armed = none)
    (hgeneration : t.generation = h.timer.generation + if e.cancels then 1 else 0)
    (htaken : (e.taken?.toList ++ h.takings).Sublist h.armings) :
    Ledger timeout ⟨h.time, t, e :: h.past⟩ := by
  have harmings : armings ⟨h.time, t, e :: h.past⟩ = h.armings := List.filterMap_cons_none harmed
  have htakings : takings ⟨h.time, t, e :: h.past⟩ = e.taken?.toList ++ h.takings := by
    rw [takings, List.filterMap_cons]
    cases e.taken? <;> rfl
  constructor
  case timeout_eq => exact htimeout.trans l.timeout_eq
  case generation_eq =>
    rw [harmings, List.countP_cons, ← Nat.add_assoc, ← l.generation_eq]
    exact hgeneration
  case live =>
    exact fun a => iff_of_false (by simp [hunarmed]) (not_stands_of_ends harmed hends)
  case current => simp [hunarmed]
  case origin => simp [hunarmed]
  case passed =>
    have hle : h.timer.generation ≤ t.generation := by omega
    exact harmings ▸ fun a ha => Nat.le_trans (l.passed a ha) hle
  case distinct => exact harmings ▸ l.distinct
  case taken =>
    rw [harmings, htakings, hunarmed]
    exact htaken

theorem use (l : Ledger timeout h) (u : Use) : Ledger timeout (h.use u) := by
  cases u with
  | arm key => exact l.arm key
  | cancel =>
    cases harmed : h.timer.armed with
    | none =>
      have hsame : h.timer.cancel = h.timer := cancel_of_unarmed harmed
      have hidle : (Entry.mk h.time h.timer .cancel).IsIdle :=
        ⟨rfl, by simp [Entry.cancels, harmed], rfl⟩
      rw [History.use, Entry.after, hsame]
      exact l.idle hidle h.time
    | some b =>
      have hcancels : (Entry.mk h.time h.timer .cancel).cancels = true := by
        simp [Entry.cancels, harmed]
      have hbumped : h.timer.cancel.generation = h.timer.generation + 1 := by
        simp [cancel, harmed]
      refine l.ends rfl (fun hidle => ?_) cancel_timeout cancel_armed ?_ ?_
      · exact absurd hidle.cancels (by simp [hcancels])
      · rw [if_pos hcancels]
        exact hbumped
      · exact (List.sublist_append_right _ _).trans l.taken
  | take generation =>
    by_cases hlive : ∃ b, h.timer.armed = some b ∧ b.generation = generation
    · obtain ⟨b, harmed, rfl⟩ := hlive
      have htake : h.timer.take b.generation = (some b, h.timer.release) := take_live harmed
      rw [History.use, Entry.after, htake]
      have htaken : (Entry.mk h.time h.timer (.take b.generation)).taken? = some b := by
        rw [Entry.taken?, htake]
      refine l.ends rfl (fun hidle => ?_) rfl rfl rfl ?_
      · exact absurd hidle.taken (by simp [htaken])
      · rw [htaken, ← harmed]
        exact l.taken
    · have htake : h.timer.take generation = (none, h.timer) :=
        take_stale fun b harmed hgeneration => hlive ⟨b, harmed, hgeneration⟩
      have hidle : (Entry.mk h.time h.timer (.take generation)).IsIdle :=
        ⟨rfl, rfl, by rw [Entry.taken?, htake]⟩
      rw [History.use, Entry.after, htake]
      exact l.idle hidle h.time
  | wait span => exact l.idle ⟨rfl, rfl, rfl⟩ (h.time + span)

theorem run (l : Ledger timeout h) (uses : List Use) : Ledger timeout (h.run uses) := by
  induction uses generalizing h with
  | nil => exact l
  | cons u uses ih => exact ih (l.use u)

end Ledger

variable {h : History}

theorem map_use_run (h : History) (uses : List Use) :
    (h.run uses).past.map Entry.use = uses.reverse ++ h.past.map Entry.use := by
  induction uses generalizing h with
  | nil => rfl
  | cons u uses ih =>
    change ((h.use u).run uses).past.map Entry.use = _
    rw [ih, List.reverse_cons, List.append_assoc]
    rfl

theorem length_armings_run (timeout time : Nat) (uses : List Use) :
    ((start timeout time).run uses).armings.length = uses.countP Use.isArm := by
  have huses : ((start timeout time).run uses).past.map Entry.use = uses.reverse :=
    (map_use_run _ uses).trans (List.append_nil _)
  generalize (start timeout time).run uses = h at huses
  calc h.armings.length = h.past.countP fun e => e.use.isArm := by
        simp only [armings, List.length_filterMap_eq_countP, Entry.isSome_armed?]
    _ = (h.past.map Entry.use).countP Use.isArm := by rw [List.countP_map]; rfl
    _ = uses.countP Use.isArm := by rw [huses, List.countP_reverse]

theorem run_generation_le (h : History) (uses : List Use) :
    (h.run uses).timer.generation ≤ h.timer.generation + uses.length := by
  induction uses generalizing h with
  | nil => exact Nat.le_refl _
  | cons u uses ih =>
    have hfirst : (h.use u).timer.generation ≤ h.timer.generation + 1 :=
      (Entry.after_generation _).2
    have hlater := ih (h.use u)
    change ((h.use u).run uses).timer.generation ≤ _
    rw [List.length_cons]
    omega

/-- A new timer, however it is used: its generation is the number of armings and of cancellations
that met an armed key, so it never falls, and 64 bits hold it for fewer than 2^64 uses. A key that
is armed is of the current generation, the key of the last arming, and due the time limit after
that. Armings have growing generations. A key is handed out for a generation just if that is the
generation of the last arming and no cancellation or handing out has ended it since, and otherwise
the timer stays as it is; so no arming is handed out twice. -/
theorem generations_of_run (timeout time : Nat) (uses : List Use) :
    let h := (start timeout time).run uses
    h.timer.generation = uses.countP Use.isArm + h.past.countP Entry.cancels ∧
    (∀ u, h.timer.generation ≤ (h.use u).timer.generation) ∧
    (uses.length < UInt64.size → h.timer.generation < UInt64.size) ∧
    (∀ a, h.timer.armed = some a → a.generation = h.timer.generation ∧
      ∃ e, h.past.find? (·.use.isArm) = some e ∧ e.use = .arm a.key ∧
        a.deadline = e.time + timeout) ∧
    (h.armings.Pairwise fun later earlier => earlier.generation < later.generation) ∧
    h.takings.Sublist h.armings ∧
    ∀ generation,
      (∀ a, (h.timer.take generation).1 = some a ↔
        a.generation = generation ∧ Stands a h.past) ∧
      ((h.timer.take generation).1 = none → (h.timer.take generation).2 = h.timer) := by
  intro h
  have l : Ledger timeout h := (Ledger.start timeout time).run uses
  refine ⟨?_, fun u => (Entry.after_generation ⟨h.time, h.timer, u⟩).1, fun hlength => ?_,
    fun a ha => ⟨l.current a ha, l.origin a ha⟩, l.distinct,
    (List.sublist_append_right _ _).trans l.taken, fun generation => ?_⟩
  · rw [l.generation_eq, length_armings_run]
  · have hle := run_generation_le (start timeout time) uses
    rw [start, Nat.zero_add] at hle
    exact Nat.lt_of_le_of_lt hle hlength
  · by_cases hlive : ∃ b, h.timer.armed = some b ∧ b.generation = generation
    · obtain ⟨b, harmed, rfl⟩ := hlive
      rw [take_live harmed]
      refine ⟨fun a => ?_, nofun⟩
      rw [← l.live, harmed]
      constructor
      · rintro ⟨⟩
        exact ⟨rfl, rfl⟩
      · exact And.right
    · have hstale : ∀ b, h.timer.armed = some b → b.generation ≠ generation :=
        fun b harmed hgeneration => hlive ⟨b, harmed, hgeneration⟩
      rw [take_stale hstale]
      refine ⟨fun a => ?_, fun _ => rfl⟩
      rw [← l.live]
      exact ⟨nofun, fun ⟨hgeneration, harmed⟩ => absurd hgeneration (hstale a harmed)⟩

/-- A generation that has not been given out yet is refused, and the first key is handed out
once. -/
example : ((start 500 0).run [.take 1, .arm "g", .wait 7, .take 1, .take 1, .arm "d"]).takings =
    [⟨1, "g", 500⟩] := by decide

end History
end ModalKeys.PrefixTimer
