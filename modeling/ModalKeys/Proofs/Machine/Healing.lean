import ModalKeys.Proofs.Machine.Coherence

/-! How a session gets over what its host does to it. A host may write any text into the slot and
change the mode while a key is armed or overdue; one key that is read as a command, or one mode set
from outside, puts the slot and the timer in order again. -/
namespace ModalKeys

variable {σ : Type}

/-- The slot and the timer agree, an open slot means command mode, and a key that is armed has its
whole time ahead. -/
structure InOrder (now : Nat) (m : Machine σ) : Prop extends Coherent now m where
  inCommand : OpenInCommand m
  deadline : ∀ a, m.timer.armed = some a → a.deadline = now + m.timer.timeout

/-- No action has been carried out from the one to the other. -/
structure Untouched (m m' : Machine σ) : Prop where
  editor : m'.editor = m.editor
  mode : m'.state.mode = m.state.mode
  clipboard : m'.state.clipboard = m.state.clipboard
  announced : m'.state.announced = m.state.announced

namespace Grammar

variable {text : String}

theorem resolve?_foreign (h : text ∉ ["", ":", "g", "y", "d"]) (key : String) :
    resolve? text key = none := by
  unfold resolve?
  split <;> simp_all

theorem fallback?_foreign (h : text ∉ ["", ":", "g", "y", "d"]) : fallback? text = none := by
  unfold fallback?
  split <;> simp_all

end Grammar

namespace Machine

variable {E : Editor σ} {m : Machine σ} {now : Nat} {key : String}

/-! ## The slot and the timer -/

theorem inOrder_of_unarmed (hslot : m.state.pending = "" ∨ m.state.pending = ":")
    (hunarmed : m.timer.armed = none) (hopen : OpenInCommand m) : InOrder now m where
  toCoherent := .of_unarmed hslot hunarmed
  inCommand := hopen
  deadline := by simp [hunarmed]

theorem setMode_inOrder (mode : Mode) : InOrder now (m.setMode mode) :=
  inOrder_of_unarmed (.inl rfl) PrefixTimer.cancel_armed (.of_empty rfl)

/-- A key that closes the slot leaves it empty, whatever the key's action does. -/
theorem close_inOrder (action? : Option Action) :
    InOrder now ((m.close key).carryOut E action?) := by
  have hslot : ((m.close key).carryOut E action?).state.pending = "" := by simp [close]
  exact inOrder_of_unarmed (.inl hslot) (by simp [close]) (.of_empty hslot)

/-- Whatever the slot and the timer hold, a key that is read as a command settles both. -/
theorem read_inOrder (mode : m.state.mode = .command) : InOrder now (m.read E now key).2 := by
  obtain ⟨d, m', hr, h⟩ := m.read_reads E now key
  rw [hr]
  cases h with
  | colon => exact inOrder_of_unarmed (.inr rfl) PrefixTimer.cancel_armed fun _ => mode
  | second => exact close_inOrder _
  | opens _ slot first =>
    have hmem := Grammar.isPrefixKey_iff.mp first
    exact {
      slot := List.mem_of_mem_drop (i := 2) hmem
      armed_iff := by simpa using hmem
      live := by simp
      inCommand := fun _ => mode
      deadline := by simp }
  | single => exact close_inOrder _
  | off other | escape other | typed other | visual other => simp [mode] at other

/-- The expiry ahead of the key, fired or refused, leaves the mode in which the key is read. -/
theorem dispatch_inOrder (mode : m.state.mode = .command) :
    InOrder now (m.dispatch E now key).2 := by
  rw [dispatch_eq_read]
  exact read_inOrder ((m.expireDue_mode E now).1.trans mode)

/-! ## A text that no key has put into the slot -/

theorem lapse_foreign (hslot : m.state.pending ∉ ["", ":", "g", "y", "d"]) :
    m.lapse E = { m with timer := m.timer.release, state := m.state.clearPending } := by
  rw [lapse]
  rcases fallBack_cases E { m with timer := m.timer.release, state := m.state.clearPending }
    m.state.pending with he | ⟨a, ha, -⟩
  · exact he
  · rw [Grammar.fallback?_foreign hslot] at ha
    cases ha

theorem expire_foreign (hslot : m.state.pending ∉ ["", ":", "g", "y", "d"]) (generation : Nat) :
    Untouched m (m.expire E generation).2 := by
  obtain ⟨fired, m', he, h⟩ := m.expire_expires E generation
  rw [he]
  cases h with
  | stale => exact ⟨rfl, rfl, rfl, rfl⟩
  | foreign => exact ⟨rfl, rfl, rfl, rfl⟩
  | fired =>
    rw [lapse_foreign hslot]
    exact ⟨rfl, rfl, rfl, rfl⟩

/-- The text is no first key of a command: the key that is typed on it is dropped with it, unless
it is a colon. -/
theorem read_foreign (hslot : m.state.pending ∉ ["", ":", "g", "y", "d"])
    (mode : m.state.mode = .command) : Untouched m (m.read E now key).2 := by
  obtain ⟨d, m', hr, h⟩ := m.read_reads E now key
  rw [hr]
  cases h with
  | colon => exact ⟨rfl, rfl, rfl, rfl⟩
  | second =>
    rw [Grammar.resolve?_foreign hslot]
    exact ⟨rfl, rfl, rfl, rfl⟩
  | opens _ slot => simp [slot] at hslot
  | single _ _ slot => simp [slot] at hslot
  | off other | escape other | typed other | visual other => simp [mode] at other

/-- Only where the very text is armed and overdue is the key read on a slot that is empty then. -/
theorem dispatch_foreign (hslot : m.state.pending ∉ ["", ":", "g", "y", "d"])
    (mode : m.state.mode = .command) :
    Untouched m (m.dispatch E now key).2 ∨
      ∃ a, m.timer.armed = some a ∧ a.deadline ≤ now ∧ a.key = m.state.pending ∧
        m.dispatch E now key =
          read E { m with timer := m.timer.release, state := m.state.clearPending } now key := by
  rw [dispatch_eq_read]
  rcases m.expireDue_cases E now with ⟨-, hdue⟩ | ⟨a, ha, hd, hdue⟩
  · rw [hdue]
    exact .inl (read_foreign hslot mode)
  · obtain ⟨fired, m', he, h⟩ := m.expire_expires E a.generation
    rw [hdue, he]
    cases h with
    | stale hstale => exact absurd rfl (hstale a ha)
    | foreign =>
      have hread : Untouched { m with timer := m.timer.release }
          (read E { m with timer := m.timer.release } now key).2 := read_foreign hslot mode
      exact .inl ⟨hread.editor, hread.mode, hread.clipboard, hread.announced⟩
    | @fired b armed live slot =>
      obtain rfl : a = b := by
        rw [ha, Option.some.injEq] at armed
        exact armed
      rw [lapse_foreign hslot]
      exact .inr ⟨a, ha, hd, slot.symm, rfl⟩

/-- From every state that a host can have left, and whatever the editor answers: a mode set from
outside puts the session in order, and so does one key in command mode, with a focus or without. A
text in the slot that is neither a colon nor the first key of a command is gone then, and no action
comes of it: neither an expiry nor the key carries one out, except that a key is read for itself
where the text was armed and has just expired. -/
theorem heals (E : Editor σ) (m : Machine σ) (now : Nat) :
    (∀ mode, InOrder now (m.setMode mode)) ∧
      (m.state.mode = .command → ∀ key,
        InOrder now (m.dispatch E now key).2 ∧
        (∀ target, m.dispatchInput E now ⟨key, target⟩ = m.dispatch E now key) ∧
        (m.state.pending ∉ ["", ":", "g", "y", "d"] →
          (m.dispatch E now key).2.state.pending ≠ m.state.pending ∧
          (Untouched m (m.dispatch E now key).2 ∨
            ∃ a, m.timer.armed = some a ∧ a.deadline ≤ now ∧ a.key = m.state.pending ∧
              m.dispatch E now key = read E
                { m with timer := m.timer.release, state := m.state.clearPending } now key))) ∧
      (m.state.pending ∉ ["", ":", "g", "y", "d"] →
        ∀ generation, Untouched m (m.expire E generation).2) := by
  refine ⟨setMode_inOrder, fun mode key => ⟨dispatch_inOrder mode, fun target => ?_,
    fun hslot => ⟨fun hsame => ?_, dispatch_foreign hslot mode⟩⟩, fun hslot => expire_foreign hslot⟩
  · have htaken : ¬ m.LeavesAlone ⟨key, target⟩ := by simp [LeavesAlone, mode]
    exact dispatchInput_eq_dispatch E now htaken
  · have horder : InOrder now (m.dispatch E now key).2 := dispatch_inOrder mode
    exact hslot (hsame ▸ horder.slot)

/-- A host has written over the slot of an overdue deletion: the deletion is forgotten, and the next
deletion key is lost with what the host wrote. -/
theorem heals_overwritten :
    let m : Machine Unit :=
      { editor := (), state := { mode := .command, pending := "dd" }
        timer := { generation := 3, armed := some ⟨3, "d", 500⟩ } }
    let m' := (m.dispatch Device.absent 900 "d").2
    m.state.mode = .command ∧ m.state.pending ∉ ["", ":", "g", "y", "d"] ∧ InOrder 900 m' ∧
      Untouched m m' ∧ m'.state.pending = "" ∧ m'.timer.armed = none := by
  intro m m'
  have hslot : m.state.pending ∉ ["", ":", "g", "y", "d"] := by decide
  obtain ⟨-, hcommand, -⟩ := heals Device.absent m 900
  obtain ⟨horder, -, hforeign⟩ := hcommand rfl "d"
  refine ⟨rfl, hslot, horder, ?_, by decide, by decide⟩
  rcases (hforeign hslot).2 with huntouched | ⟨a, ha, -, hkey, -⟩
  · exact huntouched
  · cases ha
    exact absurd hkey (by decide)

end Machine
end ModalKeys
