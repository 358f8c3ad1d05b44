import ModalKeys.Proofs.Loop.Turn
import ModalKeys.Proofs.Machine.Log

/-! The loop against a host that has none. Such a host handles each event when it comes; if it also
serves the deadlines that are due by then, it does what the loop does. It may even leave them to
the next key, unless a mode is asked for in between: that would cancel what the loop lets expire. -/
namespace ModalKeys.Loop

variable {σ : Type} {E : Editor σ}

/-- Serves the deadline that has come by an arrival, then the arrival, each by a call of its own. -/
def attend (E : Editor σ) (m : Machine σ) (a : Arrival) : Machine σ :=
  handle E (m.expireDue E a.time).2 a

/-- The deadline that is open comes by then. -/
def DueBy (now : Nat) (m : Machine σ) : Prop := ∀ p ∈ m.timer.armed, p.deadline ≤ now

/-- Whenever a mode is asked for, no key is armed whose deadline has come. The events are handled
as they come, and only keys serve deadlines. -/
def Timely (E : Editor σ) : Machine σ → List Arrival → Prop
  | _, [] => True
  | m, a :: coming =>
    (a.requestedMode? ≠ none → ∀ p ∈ m.timer.armed, a.time < p.deadline) ∧
      Timely E (handle E m a) coming

instance decidableTimely (E : Editor σ) :
    (m : Machine σ) → (arrivals : List Arrival) → Decidable (Timely E m arrivals)
  | _, [] => isTrue trivial
  | m, a :: coming =>
    have := decidableTimely E (handle E m a) coming
    inferInstanceAs (Decidable (_ ∧ _))

instance (now : Nat) (m : Machine σ) : Decidable (DueBy now m) :=
  inferInstanceAs (Decidable (∀ p ∈ m.timer.armed, p.deadline ≤ now))

/-- The last wait of the loop is one more call once the open deadline has come. -/
theorem close_eq_expireDue {m : Machine σ} {now : Nat} (h : DueBy now m) :
    close E m = (m.expireDue E now).2 := by
  cases hp : m.timer.armed with
  | none => rw [close_unarmed hp, Machine.expireDue_unarmed hp]
  | some p => rw [close_armed hp, Machine.expireDue_due hp (h p hp)]

theorem close_expireDue (m : Machine σ) (now : Nat) :
    close E (m.expireDue E now).2 = close E m := by
  rcases m.expireDue_cases E now with ⟨-, he⟩ | ⟨p, hp, -, he⟩
  · rw [he]
  · rw [he, close_armed hp, close_unarmed (Machine.expire_unarmed hp)]

/-- At an arrival it makes no difference whether the due deadline has been served, if only it is
served afterwards. A key serves it first itself: none is left to a text field while one is armed. -/
theorem handle_expireDue {m : Machine σ} {a : Arrival} (hm : Sound m)
    (ht : a.requestedMode? ≠ none → ∀ p ∈ m.timer.armed, a.time < p.deadline) :
    ((handle E (m.expireDue E a.time).2 a).expireDue E a.time).2 =
      ((handle E m a).expireDue E a.time).2 := by
  rcases m.expireDue_cases E a.time with ⟨-, he⟩ | ⟨p, hp, hd, -⟩
  · rw [he]
  have htwice : ((m.expireDue E a.time).2.expireDue E a.time).2 = (m.expireDue E a.time).2 :=
    Machine.expireDue_expireDue (Nat.le_refl _)
  rcases a.cases_event with ⟨input, hkey⟩ | ⟨mode, hmode⟩ | hnoise
  · have hcommand : m.state.mode = .command := hm.command hp
    have hbefore : ¬ m.LeavesAlone input := by simp [Machine.LeavesAlone, hcommand]
    have hafter : ¬ (m.expireDue E a.time).2.LeavesAlone input := by
      simp [Machine.LeavesAlone, Machine.expireDue_mode, hcommand]
    rw [handle_key hkey, handle_key hkey, Machine.dispatchInput_eq_dispatch E a.time hbefore,
      Machine.dispatchInput_eq_dispatch E a.time hafter, Machine.dispatch_eq_read,
      Machine.dispatch_eq_read, htwice]
  · have hlt : a.time < p.deadline := ht (by simp [hmode]) p hp
    omega
  · rw [handle_noise hnoise, handle_noise hnoise, htwice]

/-- The loop and plain handling end alike from machines that agree once the deadlines due by now
are served. -/
theorem close_foldl_eq (now : Nat) {l m : Machine σ} {arrivals : List Arrival}
    (hsame : (l.expireDue E now).2 = (m.expireDue E now).2) (hm : Sound m)
    (hnow : ∀ a ∈ arrivals, now ≤ a.time)
    (hs : arrivals.Pairwise fun a b => a.time ≤ b.time) (ht : Timely E m arrivals) :
    close E (arrivals.foldl (step E) l) = close E (arrivals.foldl (handle E) m) := by
  induction arrivals generalizing l m now with
  | nil => rw [List.foldl_nil, List.foldl_nil, ← close_expireDue l now, hsame, close_expireDue]
  | cons a coming ih =>
    have hle : now ≤ a.time := hnow a (by simp)
    have hdue : (l.expireDue E a.time).2 = (m.expireDue E a.time).2 := by
      rw [← Machine.expireDue_expireDue hle, hsame, Machine.expireDue_expireDue hle]
    rw [List.foldl_cons, List.foldl_cons, step_eq, hdue]
    refine ih a.time (handle_expireDue hm ht.1) (handle_keeps Sound.kept hm) ?_ ?_ ht.2
    · exact (List.pairwise_cons.mp hs).1
    · exact (List.pairwise_cons.mp hs).2

/-- The loop, waiting for deadlines and arrivals in turn, ends in one way only, and on every editor
with the machine that a host gets who serves the due deadline ahead of each event and the open one
at the end: the same state and timer, and the same editor, so the same calls in the same order. If
no mode is asked for while an overdue key is armed, handling the events is enough. -/
theorem run_eq_synchronous (E : Editor σ) (m : Machine σ) (hm : m.Idle) (arrivals : List Arrival)
    (hs : arrivals.Pairwise fun a b => a.time ≤ b.time) :
    (∀ m', (∃ ts, Runs E m arrivals ts m') ↔ m' = run E arrivals m) ∧
      (∀ now, DueBy now (arrivals.foldl (attend E) m) →
        run E arrivals m = ((arrivals.foldl (attend E) m).expireDue E now).2) ∧
      (Timely E m arrivals → ∀ now, DueBy now (arrivals.foldl (handle E) m) →
        run E arrivals m = ((arrivals.foldl (handle E) m).expireDue E now).2) := by
  refine ⟨fun m' => ?_, fun now hnow => ?_, fun ht now hnow => ?_⟩
  · simp [runs_iff]
  · have hattend : step E = attend E := by
      funext n a
      exact step_eq n a
    rw [run, hattend]
    exact close_eq_expireDue hnow
  · rw [← close_eq_expireDue hnow]
    exact close_foldl_eq 0 rfl (.of_idle hm) (by simp) hs ht

/-- Noise after the deadline leaves an overdue key armed; the loop has let it expire long before,
and the plain host makes the same one call when the next key comes. -/
theorem run_eq_synchronous_overdue :
    let E : Editor (Unit × List Answered) := Device.silent.logged
    let m : Machine (Unit × List Answered) := { editor := ((), []), state := { mode := .command } }
    let arrivals : List Arrival := [⟨0, some (.key ⟨"d", .unknown⟩)⟩,
      ⟨600, some (.message "oops")⟩, ⟨700, some (.key ⟨"d", .textField⟩)⟩,
      ⟨900, some (.toggle false)⟩]
    m.Idle ∧ (arrivals.Pairwise fun a b => a.time ≤ b.time) ∧ Timely E m arrivals ∧
      run E arrivals m = ((arrivals.foldl (handle E) m).expireDue E 900).2 ∧
      (run E arrivals m).editor.2.map Prod.fst = [.deleteAtCursor] := by
  intro E m arrivals
  have hm : m.Idle := ⟨rfl, rfl⟩
  have hs : arrivals.Pairwise fun a b => a.time ≤ b.time := by decide
  have ht : Timely E m arrivals := by decide
  exact ⟨hm, hs, ht, (run_eq_synchronous E m hm arrivals hs).2.2 ht 900 (by decide), by decide⟩

end ModalKeys.Loop
