import ModalKeys.Proofs.Machine.Perform
import ModalKeys.Proofs.Timer

/-! What an expiry and the reading of a key can do. To dispatch a key is to let an overdue key
expire and then to read the new one; `Expires` and `Reads` list the ways each of the two can go,
and whatever holds of a session is derived from them. -/
namespace ModalKeys

variable {σ : Type}

theorem Grammar.isPrefixKey_iff {key : String} :
    isPrefixKey key ↔ key ∈ ["g", "y", "d"] := by
  simp [isPrefixKey, or_assoc]

theorem Grammar.fallback?_keepsMode {key : String} {a : Action}
    (h : fallback? key = some a) : a.KeepsMode := by
  unfold fallback? at h
  split at h <;> cases h <;> simp [Action.KeepsMode, Action.steps]

namespace Machine

variable (E : Editor σ) (m : Machine σ) (now generation : Nat) (key : String)

/-! ## Expiry -/

/-- A key that has stayed alone does nothing or what it does alone. -/
theorem fallBack_cases : m.fallBack E key = m ∨ ∃ a, Grammar.fallback? key = some a ∧
    m.fallBack E key = perform E { m with state.last := key } a := by
  unfold fallBack
  split
  · split
    · rename_i a ha
      exact .inr ⟨a, ha, rfl⟩
    · exact .inl rfl
  · exact .inl rfl

@[simp] theorem fallBack_timer : (m.fallBack E key).timer = m.timer := by
  rcases m.fallBack_cases E key with he | ⟨a, -, he⟩ <;> simp [he]

@[simp] theorem fallBack_intercept :
    (m.fallBack E key).interceptTextFields = m.interceptTextFields := by
  rcases m.fallBack_cases E key with he | ⟨a, -, he⟩ <;> simp [he]

@[simp] theorem fallBack_pending : (m.fallBack E key).state.pending = m.state.pending := by
  rcases m.fallBack_cases E key with he | ⟨a, -, he⟩ <;> simp [he]

theorem fallBack_mode : (m.fallBack E key).state.mode = m.state.mode ∧
    (m.fallBack E key).state.announced = m.state.announced := by
  rcases m.fallBack_cases E key with he | ⟨a, ha, he⟩
  · rw [he]
    exact ⟨rfl, rfl⟩
  · rw [he]
    exact perform_mode E _ (Grammar.fallback?_keepsMode ha)

variable {m} in
theorem fallBack_command (mode : m.state.mode = .command) :
    m.fallBack E key = match Grammar.fallback? key with
      | some action => perform E { m with state.last := key } action
      | none => m := if_pos mode

variable {m} in
theorem fallBack_other (mode : m.state.mode ≠ .command) : m.fallBack E key = m := if_neg mode

/-- The machine once the key in its slot has expired. -/
def lapse : Machine σ :=
  fallBack E { m with timer := m.timer.release, state := m.state.clearPending } m.state.pending

@[simp] theorem lapse_timer : (m.lapse E).timer = m.timer.release := by simp [lapse]

@[simp] theorem lapse_intercept : (m.lapse E).interceptTextFields = m.interceptTextFields := by
  simp [lapse]

@[simp] theorem lapse_pending : (m.lapse E).state.pending = "" := by simp [lapse]

@[simp] theorem lapse_mode : (m.lapse E).state.mode = m.state.mode := (fallBack_mode E _ _).1

@[simp] theorem lapse_announced : (m.lapse E).state.announced = m.state.announced :=
  (fallBack_mode E _ _).2

/-- How the expiry of a generation can go. -/
inductive Expires : Bool → Machine σ → Prop where
  | stale (h : ∀ a, m.timer.armed = some a → a.generation ≠ generation) : Expires false m
  /-- A host has put another text into the slot, which stays. -/
  | foreign {a : Armed} (armed : m.timer.armed = some a) (live : a.generation = generation)
      (slot : m.state.pending ≠ a.key) : Expires false { m with timer := m.timer.release }
  | fired {a : Armed} (armed : m.timer.armed = some a) (live : a.generation = generation)
      (slot : m.state.pending = a.key) : Expires true (m.lapse E)

variable {E m generation} in
theorem expire_stale (h : ∀ a, m.timer.armed = some a → a.generation ≠ generation) :
    m.expire E generation = (false, m) := by
  simp only [expire, PrefixTimer.take_stale h]

theorem expire_expires :
    ∃ fired m', m.expire E generation = (fired, m') ∧ Expires E m generation fired m' := by
  refine ⟨(m.expire E generation).1, (m.expire E generation).2, rfl, ?_⟩
  by_cases h : ∃ a, m.timer.armed = some a ∧ a.generation = generation
  · obtain ⟨a, harmed, rfl⟩ := h
    simp only [expire, PrefixTimer.take_live harmed]
    split
    · rename_i hslot
      rw [← hslot]
      exact .fired harmed rfl hslot
    · rename_i hslot
      exact .foreign harmed rfl hslot
  · have hstale : ∀ a, m.timer.armed = some a → a.generation ≠ generation :=
      fun a ha hg => h ⟨a, ha, hg⟩
    rw [expire_stale hstale]
    exact .stale hstale

theorem expire_mode : (m.expire E generation).2.state.mode = m.state.mode ∧
    (m.expire E generation).2.state.announced = m.state.announced ∧
    (m.expire E generation).2.interceptTextFields = m.interceptTextFields := by
  obtain ⟨fired, m', he, h⟩ := m.expire_expires E generation
  rw [he]
  cases h <;> simp

theorem expire_timeout : (m.expire E generation).2.timer.timeout = m.timer.timeout := by
  obtain ⟨fired, m', he, h⟩ := m.expire_expires E generation
  rw [he]
  cases h <;> simp

variable {E m now}

/-- Whatever stands in the slot, the armed key is gone after its expiry. -/
theorem expire_unarmed {a : Armed} (ha : m.timer.armed = some a) :
    (m.expire E a.generation).2.timer.armed = none := by
  obtain ⟨fired, m', he, h⟩ := m.expire_expires E a.generation
  rw [he]
  cases h with
  | stale h => exact absurd rfl (h a ha)
  | foreign => rfl
  | fired => simp

theorem expireDue_early (h : ∀ a, m.timer.armed = some a → now < a.deadline) :
    m.expireDue E now = (false, m) := by
  simp [expireDue, PrefixTimer.due?_eq_none_iff.mpr h]

theorem expireDue_unarmed (h : m.timer.armed = none) : m.expireDue E now = (false, m) :=
  expireDue_early (by simp [h])

theorem expireDue_due {a : Armed} (h : m.timer.armed = some a) (hd : a.deadline ≤ now) :
    m.expireDue E now = m.expire E a.generation := by
  simp [expireDue, PrefixTimer.due?_eq_some_iff.mpr ⟨h, hd⟩]

variable (E m now)

theorem expireDue_cases :
    ((∀ a, m.timer.armed = some a → now < a.deadline) ∧ m.expireDue E now = (false, m)) ∨
      ∃ a, m.timer.armed = some a ∧ a.deadline ≤ now ∧
        m.expireDue E now = m.expire E a.generation := by
  cases h : m.timer.armed with
  | none => exact .inl ⟨by simp, expireDue_unarmed h⟩
  | some a =>
    by_cases hd : a.deadline ≤ now
    · exact .inr ⟨a, rfl, hd, expireDue_due h hd⟩
    · have hearly : ∀ b, some a = some b → now < b.deadline := by
        intro b hb
        cases hb
        omega
      exact .inl ⟨hearly, expireDue_early (h ▸ hearly)⟩

theorem expireDue_mode : (m.expireDue E now).2.state.mode = m.state.mode ∧
    (m.expireDue E now).2.state.announced = m.state.announced ∧
    (m.expireDue E now).2.interceptTextFields = m.interceptTextFields := by
  rcases m.expireDue_cases E now with ⟨-, he⟩ | ⟨a, -, -, he⟩
  · simp [he]
  · rw [he]
    exact expire_mode E m a.generation

variable {E m now} in
/-- A deadline that was served by some time is settled for all later ones. -/
theorem expireDue_expireDue {later : Nat} (hle : now ≤ later) :
    ((m.expireDue E now).2.expireDue E later).2 = (m.expireDue E later).2 := by
  rcases m.expireDue_cases E now with ⟨-, he⟩ | ⟨a, ha, hd, he⟩
  · rw [he]
  · rw [he, expireDue_unarmed (expire_unarmed ha), expireDue_due ha (by omega)]

/-! ## Reading a key -/

/-- Takes a key on a machine that nothing is due on. -/
def read : Disposition × Machine σ :=
  let (reaction, m) := m.react key
  m.follow E now reaction

theorem dispatch_eq_read : m.dispatch E now key = (m.expireDue E now).2.read E now key := rfl

/-- The machine once a key has ended what was open. -/
def close : Machine σ :=
  { m with state := { m.state.clearPending with last := key }, timer := m.timer.cancel }

/-- The action of a key in visual mode. -/
def visualAction? (key : String) : Option Action :=
  if isEscape key then some .exitVisual else Grammar.visual? key

/-- How the reading of a key can go. -/
inductive Reads : Disposition → Machine σ → Prop where
  | off (mode : m.state.mode = .off) : Reads .passThrough m
  | colon (mode : m.state.mode = .command) (colon : key = ":") :
      Reads .pending
        { m with state := { m.state with pending := ":" }, timer := m.timer.cancel }
  | second (mode : m.state.mode = .command) (colon : key ≠ ":") (slot : m.state.pending ≠ "") :
      Reads .consumed ((m.close key).carryOut E (Grammar.resolve? m.state.pending key))
  | opens (mode : m.state.mode = .command) (slot : m.state.pending = "")
      (first : Grammar.isPrefixKey key) :
      Reads .pending
        { m with state := { m.state with pending := key }, timer := m.timer.cancel.arm now key }
  | single (mode : m.state.mode = .command) (colon : key ≠ ":") (slot : m.state.pending = "")
      (first : ¬ Grammar.isPrefixKey key) :
      Reads .consumed ((m.close key).carryOut E (Grammar.single? key))
  | escape (mode : m.state.mode = .insert) (escape : isEscape key) :
      Reads .consumed (m.perform E .exitInsert)
  | typed (mode : m.state.mode = .insert) (escape : ¬ isEscape key) : Reads .passThrough m
  | visual (mode : m.state.mode = .visual) :
      Reads .consumed (m.carryOut E (visualAction? key))

theorem follow_actOr (action? : Option Action) :
    m.follow E now (Grammar.actOr action?) = (.consumed, m.carryOut E action?) := by
  cases action? <;> rfl

theorem follow_visualKey :
    m.follow E now (Grammar.visualKey key) = (.consumed, m.carryOut E (visualAction? key)) := by
  unfold Grammar.visualKey visualAction?
  split
  · rfl
  · exact follow_actOr E m now _

theorem read_command (mode : m.state.mode = .command) :
    m.read E now key = follow E now
      { m with state := (Grammar.commandKey key m.state).2, timer := m.timer.cancel }
      (Grammar.commandKey key m.state).1 := by
  simp only [read, react, mode]

theorem read_visual (mode : m.state.mode = .visual) :
    m.read E now key = (.consumed, m.carryOut E (visualAction? key)) := by
  simp only [read, react, mode, follow_visualKey]

theorem read_command_reads (mode : m.state.mode = .command) :
    Reads E m now key (m.read E now key).1 (m.read E now key).2 := by
  rw [read_command E m now key mode, Grammar.commandKey]
  split
  · rename_i hcolon
    exact .colon mode hcolon
  · rename_i hcolon
    split
    · rename_i hslot
      rw [follow_actOr]
      exact .second mode hcolon (m.state.hasPending_iff.mp hslot)
    · rename_i hslot
      have hempty : m.state.pending = "" := by
        simpa [State.hasPending_iff] using hslot
      split
      · rename_i hfirst
        exact .opens mode hempty hfirst
      · rename_i hfirst
        have hstate : { m.state with last := key } = { m.state.clearPending with last := key } := by
          simp [State.clearPending, hempty]
        rw [follow_actOr, hstate]
        exact .single mode hcolon hempty hfirst

theorem read_reads : ∃ d m', m.read E now key = (d, m') ∧ Reads E m now key d m' := by
  refine ⟨(m.read E now key).1, (m.read E now key).2, rfl, ?_⟩
  cases mode : m.state.mode with
  | off => simpa only [read, react, mode] using .off mode
  | command => exact read_command_reads E m now key mode
  | insert =>
    simp only [read, react, mode, Grammar.insertKey]
    split
    · rename_i hescape
      exact .escape mode hescape
    · rename_i hescape
      exact .typed mode hescape
  | visual =>
    rw [read_visual E m now key mode]
    exact .visual mode

theorem read_timeout : (m.read E now key).2.timer.timeout = m.timer.timeout := by
  obtain ⟨d, m', hr, h⟩ := m.read_reads E now key
  rw [hr]
  cases h <;> simp [close]

/-! ## Keys with a focus -/

/-- An input that insert mode leaves to its text field. -/
def LeavesAlone (input : KeyInput) : Prop :=
  m.state.mode = .insert ∧ input.target = .textField ∧ m.interceptTextFields = false

instance (input : KeyInput) : Decidable (m.LeavesAlone input) := by
  unfold LeavesAlone
  infer_instance

variable {m} {input : KeyInput}

theorem dispatchInput_alone (h : m.LeavesAlone input) :
    m.dispatchInput E now input = (.passThrough, m) := if_pos h

theorem dispatchInput_eq_dispatch (h : ¬ m.LeavesAlone input) :
    m.dispatchInput E now input = m.dispatch E now input.key := if_neg h

end Machine
end ModalKeys
