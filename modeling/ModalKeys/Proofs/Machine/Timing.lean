import Mathlib.Data.List.Forall2
import ModalKeys.Proofs.Machine.Generation
import ModalKeys.Proofs.Machine.Simulation

/-! What time has to do with keys. The clock and the timeout enter a session only in the question
whether a key comes later than the timeout after the one before, so two sessions with clocks and
timeouts of their own do the same if that question has the same answers. -/
namespace ModalKeys

variable {σ : Type}

/-- A key and the time at which it is typed. -/
structure Press where
  time : Nat
  input : KeyInput
  deriving DecidableEq, Repr

namespace Press

/-- Which of the keys, the first apart, come no sooner than the timeout after the key before. -/
def late (timeout : Nat) (ps : List Press) : List Bool :=
  ps.zipWith (fun p next => decide (timeout ≤ next.time - p.time)) ps.tail

theorem tail_late (timeout : Nat) (p : Press) (ps : List Press) :
    (late timeout (p :: ps)).tail = late timeout ps := by
  cases ps <;> rfl

end Press

/-! ## Timers that differ in their times -/

namespace PrefixTimer

/-- The same key is armed with the same generation. -/
structure Alike (t t' : PrefixTimer) : Prop where
  generation : t.generation = t'.generation
  armed : t.armed.map (fun a => (a.generation, a.key)) =
    t'.armed.map fun a => (a.generation, a.key)

namespace Alike

variable {t t' : PrefixTimer}

theorem key_eq (h : t.Alike t') : t.armed.map (·.key) = t'.armed.map (·.key) := by
  simpa [Function.comp_def] using congrArg (Option.map Prod.snd) h.armed

theorem release (h : t.Alike t') : t.release.Alike t'.release := ⟨h.generation, rfl⟩

theorem cancel (h : t.Alike t') : t.cancel.Alike t'.cancel := by
  have hsome : t.armed.isSome = t'.armed.isSome := by
    simpa using congrArg Option.isSome h.armed
  unfold PrefixTimer.cancel
  rw [hsome]
  split
  · exact ⟨congrArg (· + 1) h.generation, rfl⟩
  · exact h

theorem arm (h : t.Alike t') (now now' : Nat) (key : String) :
    (t.arm now key).Alike (t'.arm now' key) := by
  have hgen := h.generation
  exact ⟨by simp [hgen], by simp [hgen]⟩

end Alike
end PrefixTimer

namespace Machine

variable {E : Editor σ} {m m' : Machine σ} {now now' time : Nat} {input : KeyInput}

def withTimeout (m : Machine σ) (timeout : Nat) : Machine σ := { m with timer.timeout := timeout }

/-- What becomes of each key, and the machine after it. -/
def presses (E : Editor σ) : List Press → Machine σ → List (Disposition × Machine σ)
  | [], _ => []
  | p :: later, m =>
    let answer := m.dispatchInput E p.time p.input
    answer :: presses E later answer.2

/-- The machines differ in nothing but the timeout and the deadline of the armed key. -/
structure Alike (m m' : Machine σ) : Prop where
  editor : m.editor = m'.editor
  state : m.state = m'.state
  interceptTextFields : m.interceptTextFields = m'.interceptTextFields
  timer : m.timer.Alike m'.timer

/-- The key has the same disposition and leaves machines that are alike. -/
structure AlikeAnswers (answer answer' : Disposition × Machine σ) : Prop where
  disposition : answer.1 = answer'.1
  machine : answer.2.Alike answer'.2

/-! ## One key on machines that are alike -/

namespace Alike

/-- Being alike is a simulation: nothing that a session does depends on its deadlines but the
question whether they have come. -/
def simulation (E : Editor σ) : Simulation E E :=
  .ofEqState Eq PrefixTimer.Alike (fun call h => by rw [h]) (fun call h => by rw [h])
    (fun h => h.key_eq) (fun h => h.release) fun h => h.cancel

theorem dispatchInput (h : m.Alike m') (input : KeyInput)
    (hdue : ∀ a a', m.timer.armed = some a → m'.timer.armed = some a' →
      (a.deadline ≤ now ↔ a'.deadline ≤ now')) :
    AlikeAnswers (m.dispatchInput E now input) (m'.dispatchInput E now' input) := by
  have hrelated : (simulation E).Related m m' :=
    ⟨h.editor, h.state, h.interceptTextFields, h.timer⟩
  have harms : (simulation E).Arms now now' := fun t t' key ht => ht.arm now now' key
  obtain ⟨hdisposition, hmachine⟩ := Simulation.dispatchInput hrelated harms hdue input
  exact ⟨hdisposition, hmachine.editor, hmachine.state, hmachine.interceptTextFields,
    hmachine.timer⟩

end Alike

/-! ## Deadlines -/

/-- An armed key was armed at this time. -/
def ArmedAt (m : Machine σ) (time : Nat) : Prop :=
  ∀ a, m.timer.armed = some a → a.deadline = time + m.timer.timeout

/-- After a key only that key can be armed. -/
theorem armedAt_dispatchInput (h : Sound m) :
    (m.dispatchInput E now input).2.ArmedAt now := by
  intro a ha
  by_cases hl : m.LeavesAlone input
  · rw [dispatchInput_alone E now hl] at ha
    have hnone : m.timer.armed = none := h.unarmed (by simp [hl.1])
    simp [hnone] at ha
  · have hafter : Sound (m.expireDue E now).2 := h.expireDue
    rw [dispatchInput_eq_dispatch E now hl, dispatch_eq_read] at ha ⊢
    rcases armed_of_read ha with hopens | ⟨hmode, hbefore⟩
    · rw [read_timeout]
      exact hopens.deadline
    · exact absurd (hafter.command hbefore) hmode

/-- The deadline has come with the next key just if that key is late. -/
theorem deadline_le_iff (h : m.ArmedAt time) {a : Armed} (ha : m.timer.armed = some a)
    (hle : time ≤ now) : a.deadline ≤ now ↔ m.timer.timeout ≤ now - time := by
  have hdeadline : a.deadline = time + m.timer.timeout := h a ha
  omega

/-! ## All keys -/

/-- What holds between the two sessions after a key. -/
structure InStep (timeout timeout' : Nat) (p p' : Press) (m m' : Machine σ) : Prop where
  alike : m.Alike m'
  sound : Sound m
  sound' : Sound m'
  timeout_eq : m.timer.timeout = timeout
  timeout_eq' : m'.timer.timeout = timeout'
  armedAt : m.ArmedAt p.time
  armedAt' : m'.ArmedAt p'.time

theorem inStep_dispatchInput {timeout timeout' : Nat} {p p' : Press} (hm : Sound m)
    (hm' : Sound m') (ht : m.timer.timeout = timeout) (ht' : m'.timer.timeout = timeout')
    (hanswers : AlikeAnswers (m.dispatchInput E p.time p.input)
      (m'.dispatchInput E p'.time p'.input)) :
    InStep timeout timeout' p p' (m.dispatchInput E p.time p.input).2
      (m'.dispatchInput E p'.time p'.input).2 where
  alike := hanswers.machine
  sound := Sound.kept.dispatchInput p.input hm
  sound' := Sound.kept.dispatchInput p'.input hm'
  timeout_eq := (kept_timeout E p.time timeout).dispatchInput p.input ht
  timeout_eq' := (kept_timeout E p'.time timeout').dispatchInput p'.input ht'
  armedAt := armedAt_dispatchInput hm
  armedAt' := armedAt_dispatchInput hm'

/-- From one key to the next: the open deadlines were set with the key before, so with the next one
both have come or neither. -/
theorem presses_of_inStep {timeout timeout' : Nat} {p p' : Press} {ps ps' : List Press}
    (h : InStep timeout timeout' p p' m m') (hkeys : ps.map (·.input) = ps'.map (·.input))
    (hs : (p :: ps).Pairwise fun p q => p.time ≤ q.time)
    (hs' : (p' :: ps').Pairwise fun p q => p.time ≤ q.time)
    (hlate : Press.late timeout (p :: ps) = Press.late timeout' (p' :: ps')) :
    List.Forall₂ AlikeAnswers (presses E ps m) (presses E ps' m') := by
  induction ps generalizing m m' p p' ps' with
  | nil =>
    obtain rfl : ps' = [] := List.map_eq_nil_iff.mp hkeys.symm
    exact .nil
  | cons q later ih =>
    obtain ⟨q', later', rfl, hinput, hrest⟩ := List.map_eq_cons_iff.mp hkeys.symm
    rw [List.pairwise_cons] at hs hs'
    have hle : p.time ≤ q.time := hs.1 q (by simp)
    have hle' : p'.time ≤ q'.time := hs'.1 q' (by simp)
    have hboth : timeout ≤ q.time - p.time ↔ timeout' ≤ q'.time - p'.time := by
      simpa [Press.late] using (List.cons.inj hlate).1
    have hanswers : AlikeAnswers (m.dispatchInput E q.time q.input)
        (m'.dispatchInput E q'.time q'.input) := by
      rw [hinput]
      refine h.alike.dispatchInput q.input fun a a' ha ha' => ?_
      rw [deadline_le_iff h.armedAt ha hle, deadline_le_iff h.armedAt' ha' hle', h.timeout_eq,
        h.timeout_eq', hboth]
    have hlater : Press.late timeout (q :: later) = Press.late timeout' (q' :: later') := by
      rw [← Press.tail_late timeout p, ← Press.tail_late timeout' p', hlate]
    have hnext := inStep_dispatchInput h.sound h.sound' h.timeout_eq h.timeout_eq' hanswers
    exact .cons hanswers (ih hnext hrest.symm hs.2 hs'.2 hlater)

/-- The same keys, typed on two clocks to two sessions that differ only in their timeouts. If the
same keys are late on both, then each key has the same disposition in both and leaves the same
machine, its editor, its announcements and the generation of its armed key included: only deadlines
differ. -/
theorem presses_alike (E : Editor σ) (m : Machine σ) (hm : m.Idle) (timeout timeout' : Nat)
    (ps ps' : List Press) (hkeys : ps.map (·.input) = ps'.map (·.input))
    (hs : ps.Pairwise fun p q => p.time ≤ q.time) (hs' : ps'.Pairwise fun p q => p.time ≤ q.time)
    (hlate : Press.late timeout ps = Press.late timeout' ps') :
    List.Forall₂ AlikeAnswers (presses E ps (m.withTimeout timeout))
      (presses E ps' (m.withTimeout timeout')) := by
  cases ps with
  | nil =>
    obtain rfl : ps' = [] := List.map_eq_nil_iff.mp hkeys.symm
    exact .nil
  | cons p later =>
    obtain ⟨p', later', rfl, hinput, hrest⟩ := List.map_eq_cons_iff.mp hkeys.symm
    have hsound (T : Nat) : Sound (m.withTimeout T) := .of_idle ⟨hm.slot, hm.unarmed⟩
    have hunarmed (T : Nat) : (m.withTimeout T).timer.armed = none := hm.unarmed
    have halike : (m.withTimeout timeout).Alike (m.withTimeout timeout') :=
      ⟨rfl, rfl, rfl, rfl, rfl⟩
    -- nothing is armed yet, so the first key comes to no deadline on either clock
    have hanswers : AlikeAnswers ((m.withTimeout timeout).dispatchInput E p.time p.input)
        ((m.withTimeout timeout').dispatchInput E p'.time p'.input) := by
      rw [hinput]
      exact halike.dispatchInput p.input fun a a' ha => by simp [hunarmed] at ha
    have hnext := inStep_dispatchInput (hsound timeout) (hsound timeout') rfl rfl hanswers
    exact .cons hanswers (presses_of_inStep hnext hrest.symm hs hs' hlate)

/-- On a slow clock and a fast one the line is deleted, and the first of the two yanking keys has
expired when the second comes at its deadline. -/
theorem presses_alike_fast :
    let E : Editor (Unit × List (EditorCall × Except EditorError String)) := Device.silent.logged
    let m : Machine (Unit × List (EditorCall × Except EditorError String)) :=
      { editor := ((), []), state := { mode := .command } }
    let ps : List Press := [⟨0, ⟨"d", .editor⟩⟩, ⟨499, ⟨"d", .textField⟩⟩, ⟨1000, ⟨"y", .editor⟩⟩,
      ⟨1500, ⟨"y", .editor⟩⟩]
    let ps' : List Press := [⟨7, ⟨"d", .editor⟩⟩, ⟨7, ⟨"d", .textField⟩⟩, ⟨20, ⟨"y", .editor⟩⟩,
      ⟨30, ⟨"y", .editor⟩⟩]
    m.Idle ∧ ps.map (·.input) = ps'.map (·.input) ∧
      (ps.Pairwise fun p q => p.time ≤ q.time) ∧ (ps'.Pairwise fun p q => p.time ≤ q.time) ∧
      Press.late 500 ps = [false, true, true] ∧ Press.late 10 ps' = [false, true, true] ∧
      List.Forall₂ AlikeAnswers (presses E ps (m.withTimeout 500))
        (presses E ps' (m.withTimeout 10)) ∧
      ((presses E ps' (m.withTimeout 10)).map fun answer => answer.2.editor.2.length) =
        [0, 1, 1, 3] := by
  intro E m ps ps'
  have hm : m.Idle := ⟨rfl, rfl⟩
  have hkeys : ps.map (·.input) = ps'.map (·.input) := by decide
  have hs : ps.Pairwise fun p q => p.time ≤ q.time := by decide
  have hs' : ps'.Pairwise fun p q => p.time ≤ q.time := by decide
  have hlate : Press.late 500 ps = [false, true, true] := by decide
  have hlate' : Press.late 10 ps' = [false, true, true] := by decide
  have halike := presses_alike E m hm 500 10 ps ps' hkeys hs hs' (hlate.trans hlate'.symm)
  exact ⟨hm, hkeys, hs, hs', hlate, hlate', halike, by decide⟩

end Machine
end ModalKeys
