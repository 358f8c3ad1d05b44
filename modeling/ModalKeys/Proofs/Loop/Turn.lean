import ModalKeys.Proofs.Machine.Generation

/-! The turns of the loop. Between two turns the loop waits for the open deadline and for the next
arrival, whichever comes first, and at one instant the deadline comes first; once no more events
can come it waits for the deadline alone. -/
namespace ModalKeys

variable {σ : Type}

/-- What ends a wait of the loop. -/
inductive Wake where
  | deadline (armed : Armed)
  | arrival (arrival : Arrival)
  deriving DecidableEq, Repr

def Wake.arrival? : Wake → Option Arrival
  | deadline _ => none
  | arrival a => some a

/-- What the loop does between two waits. -/
structure Turn (σ : Type) where
  time : Nat
  cause : Wake
  before : Machine σ
  after : Machine σ

/-- The arrivals that turns serve. -/
def Turn.arrivals (ts : List (Turn σ)) : List Arrival := ts.filterMap (·.cause.arrival?)

namespace Arrival

/-- The mode that an arrival asks for. -/
def requestedMode? (a : Arrival) : Option Mode := a.event.bind HostEvent.requestedMode?

/-- An arrival that is no key and asks for no mode. -/
structure IsNoise (a : Arrival) : Prop where
  no_key : ∀ input, a.event ≠ some (.key input)
  no_mode : a.requestedMode? = none

theorem cases_event (a : Arrival) :
    (∃ input, a.event = some (.key input)) ∨ (∃ mode, a.requestedMode? = some mode) ∨
      a.IsNoise := by
  by_cases hk : ∃ input, a.event = some (.key input)
  · exact .inl hk
  · cases hm : a.requestedMode? with
    | some mode => exact .inr (.inl ⟨mode, rfl⟩)
    | none => exact .inr (.inr ⟨fun input he => hk ⟨input, he⟩, hm⟩)

end Arrival

namespace Loop

variable (E : Editor σ)

def expiryTurn (m : Machine σ) (p : Armed) : Turn σ :=
  ⟨p.deadline, .deadline p, m, (m.expire E p.generation).2⟩

def arrivalTurn (m : Machine σ) (a : Arrival) : Turn σ := ⟨a.time, .arrival a, m, handle E m a⟩

/-- The loop as a process: each wait ends with the deadline if that comes no later than the next
arrival, else with the arrival; it returns when nothing is armed and nothing can arrive. -/
inductive Runs : Machine σ → List Arrival → List (Turn σ) → Machine σ → Prop where
  | done {m : Machine σ} (unarmed : m.timer.armed = none) : Runs m [] [] m
  | expiry {m m' : Machine σ} {p : Armed} {coming : List Arrival} {turns : List (Turn σ)}
      (armed : m.timer.armed = some p) (first : ∀ a ∈ coming.head?, p.deadline ≤ a.time)
      (rest : Runs (expiryTurn E m p).after coming turns m') :
      Runs m coming (expiryTurn E m p :: turns) m'
  | arrival {m m' : Machine σ} {a : Arrival} {coming : List Arrival} {turns : List (Turn σ)}
      (first : ∀ p, m.timer.armed = some p → a.time < p.deadline)
      (rest : Runs (arrivalTurn E m a).after coming turns m') :
      Runs m (a :: coming) (arrivalTurn E m a :: turns) m'

/-- The turns from the first arrival to the return. -/
def turns : List Arrival → Machine σ → List (Turn σ)
  | [], m => (m.timer.armed.map (expiryTurn E m)).toList
  | a :: coming, m =>
    ((m.timer.due? a.time).map (expiryTurn E m)).toList ++
      arrivalTurn E (settle E m a.time) a :: turns coming (step E m a)

variable {E}

/-! ## One arrival -/

theorem handle_key {m : Machine σ} {a : Arrival} {input : KeyInput}
    (h : a.event = some (.key input)) :
    handle E m a = (m.dispatchInput E a.time input).2 := by
  simp [handle, h, Machine.handle]

theorem handle_mode {m : Machine σ} {a : Arrival} {mode : Mode}
    (h : a.requestedMode? = some mode) : handle E m a = m.setMode mode := by
  cases he : a.event with
  | none => simp [Arrival.requestedMode?, he] at h
  | some event =>
    have hm : event.requestedMode? = some mode := by
      simpa [Arrival.requestedMode?, he] using h
    cases event with
    | key input => simp [HostEvent.requestedMode?] at hm
    | _ => simp [handle, he, Machine.handle, hm]

theorem handle_noise {m : Machine σ} {a : Arrival} (h : a.IsNoise) : handle E m a = m := by
  cases he : a.event with
  | none => simp [handle, he]
  | some event =>
    have hm : event.requestedMode? = none := by
      simpa [Arrival.requestedMode?, he] using h.no_mode
    cases event with
    | key input => exact absurd he (h.no_key input)
    | _ => simp [handle, he, Machine.handle, hm]

theorem handle_keeps {P : Machine σ → Prop} {m : Machine σ} {a : Arrival}
    (h : Machine.Kept E a.time P) (hm : P m) : P (handle E m a) := by
  rcases a.cases_event with ⟨input, he⟩ | ⟨mode, hmode⟩ | hn
  · rw [handle_key he]
    exact h.dispatchInput input hm
  · rw [handle_mode hmode]
    exact h.setMode m mode hm
  · rw [handle_noise hn]
    exact hm

/-! ## Deadlines -/

theorem settle_eq (m : Machine σ) (time : Nat) : settle E m time = (m.expireDue E time).2 := by
  rcases m.expireDue_cases E time with ⟨hearly, he⟩ | ⟨p, hp, hd, he⟩
  · cases hp : m.timer.armed with
    | none => simp [settle, expireBy, expire, hp, he]
    | some p =>
      have hlt := hearly p hp
      simp [settle, expireBy, expire, hp, he, Option.filter, Nat.not_le.mpr hlt]
  · simp [settle, expireBy, expire, hp, he, Option.filter, hd]

theorem step_eq (m : Machine σ) (a : Arrival) :
    step E m a = handle E (m.expireDue E a.time).2 a := by
  rw [step, settle_eq]

theorem close_armed {m : Machine σ} {p : Armed} (h : m.timer.armed = some p) :
    close E m = (m.expire E p.generation).2 := by
  simp [close, expire, h]

theorem close_unarmed {m : Machine σ} (h : m.timer.armed = none) : close E m = m := by
  simp [close, expire, h]

theorem close_armed_eq_none (m : Machine σ) : (close E m).timer.armed = none := by
  cases h : m.timer.armed with
  | none => rw [close_unarmed h, h]
  | some p => rw [close_armed h, Machine.expire_unarmed h]

/-! ## The turns are the run -/

/-- Each turn is a moment of the loop, in order. -/
theorem map_turns (arrivals : List Arrival) (m : Machine σ) :
    (turns E arrivals m).map (fun t => ⟨t.time, t.after⟩) = moments E arrivals m := by
  induction arrivals generalizing m with
  | nil => cases h : m.timer.armed <;> simp [turns, moments, expire, expiryTurn, h]
  | cons a coming ih =>
    have hdue : ((m.timer.due? a.time).map (expiryTurn E m)).toList.map
        (fun t => (⟨t.time, t.after⟩ : Moment σ)) = (expireBy E m a.time).toList := by
      cases h : m.timer.armed with
      | none => simp [PrefixTimer.due?, expireBy, expire, h]
      | some p =>
        by_cases hd : p.deadline ≤ a.time <;>
          simp [PrefixTimer.due?, expireBy, expire, expiryTurn, h, hd, Option.filter]
    simp [turns, moments, visit, ih, hdue, arrivalTurn, step]

theorem turns_nil_armed {m : Machine σ} {p : Armed} (h : m.timer.armed = some p) :
    turns E [] m = [expiryTurn E m p] := by simp [turns, h]

theorem turns_nil_unarmed {m : Machine σ} (h : m.timer.armed = none) : turns E [] m = [] := by
  simp [turns, h]

theorem early_of_unarmed {m : Machine σ} {time : Nat} (h : m.timer.armed = none) :
    ∀ p, m.timer.armed = some p → time < p.deadline := by simp [h]

theorem turns_cons_early {m : Machine σ} {a : Arrival} (coming : List Arrival)
    (h : ∀ p, m.timer.armed = some p → a.time < p.deadline) :
    turns E (a :: coming) m = arrivalTurn E m a :: turns E coming (handle E m a) := by
  rw [turns, step_eq, settle_eq, PrefixTimer.due?_eq_none_iff.mpr h, Machine.expireDue_early h]
  rfl

theorem turns_cons_due {m : Machine σ} {p : Armed} {a : Arrival} (coming : List Arrival)
    (h : m.timer.armed = some p) (hd : p.deadline ≤ a.time) :
    turns E (a :: coming) m =
      expiryTurn E m p :: turns E (a :: coming) (m.expire E p.generation).2 := by
  rw [turns_cons_early coming (early_of_unarmed (Machine.expire_unarmed h)), turns, step_eq,
    settle_eq, PrefixTimer.due?_eq_some_iff.mpr ⟨h, hd⟩, Machine.expireDue_due h hd]
  rfl

theorem run_cons_early {m : Machine σ} {a : Arrival} (coming : List Arrival)
    (h : ∀ p, m.timer.armed = some p → a.time < p.deadline) :
    run E (a :: coming) m = run E coming (handle E m a) := by
  rw [run, List.foldl_cons, step_eq, Machine.expireDue_early h, run]

theorem run_cons_due {m : Machine σ} {p : Armed} {a : Arrival} (coming : List Arrival)
    (h : m.timer.armed = some p) (hd : p.deadline ≤ a.time) :
    run E (a :: coming) m = run E (a :: coming) (m.expire E p.generation).2 := by
  rw [run_cons_early coming (early_of_unarmed (Machine.expire_unarmed h)), run, List.foldl_cons,
    step_eq, Machine.expireDue_due h hd, run]

/-- The process does these turns and returns the machine of the loop. -/
theorem runs_turns (arrivals : List Arrival) (m : Machine σ) :
    Runs E m arrivals (turns E arrivals m) (run E arrivals m) := by
  induction arrivals generalizing m with
  | nil =>
    cases h : m.timer.armed with
    | none =>
      rw [turns_nil_unarmed h, run, List.foldl_nil, close_unarmed h]
      exact .done h
    | some p =>
      rw [turns_nil_armed h, run, List.foldl_nil, close_armed h]
      exact .expiry h (by simp) (.done (Machine.expire_unarmed h))
  | cons a coming ih =>
    -- after an expiry nothing is armed, so the arrival comes next in either case
    have hearly {n : Machine σ} (h : ∀ p, n.timer.armed = some p → a.time < p.deadline) :
        Runs E n (a :: coming) (turns E (a :: coming) n) (run E (a :: coming) n) := by
      rw [turns_cons_early coming h, run_cons_early coming h]
      exact .arrival h (ih _)
    rcases m.expireDue_cases E a.time with ⟨h, -⟩ | ⟨p, hp, hd, -⟩
    · exact hearly h
    · rw [turns_cons_due coming hp hd, run_cons_due coming hp hd]
      exact .expiry hp (by simpa using hd) (hearly (early_of_unarmed (Machine.expire_unarmed hp)))

theorem runs_iff {arrivals : List Arrival} {m m' : Machine σ} {ts : List (Turn σ)} :
    Runs E m arrivals ts m' ↔ ts = turns E arrivals m ∧ m' = run E arrivals m := by
  constructor
  · intro h
    induction h with
    | done unarmed => simp [turns_nil_unarmed unarmed, run, close_unarmed unarmed]
    | @expiry m m' p coming ts armed first rest ih =>
      cases coming with
      | nil =>
        have hnone : (expiryTurn E m p).after.timer.armed = none := Machine.expire_unarmed armed
        rw [turns_nil_armed armed, ih.1, ih.2, turns_nil_unarmed hnone, run, List.foldl_nil,
          close_unarmed hnone, run, List.foldl_nil, close_armed armed]
        exact ⟨rfl, rfl⟩
      | cons a coming =>
        have hd : p.deadline ≤ a.time := first a (by simp)
        rw [turns_cons_due coming armed hd, run_cons_due coming armed hd, ih.1, ih.2]
        exact ⟨rfl, rfl⟩
    | @arrival m m' a coming ts first rest ih =>
      rw [turns_cons_early coming first, run_cons_early coming first, ih.1, ih.2]
      exact ⟨rfl, rfl⟩
  · rintro ⟨rfl, rfl⟩
    exact runs_turns arrivals m

/-! ## What lasts through a run -/

namespace Runs

variable {m m' : Machine σ} {arrivals : List Arrival} {ts past future : List (Turn σ)} {t : Turn σ}

theorem keeps {P : Machine σ → Prop} (hkept : ∀ now, Machine.Kept E now P)
    (h : Runs E m arrivals ts m') (hm : P m) : P m' ∧ ∀ u ∈ ts, P u.before ∧ P u.after := by
  induction h with
  | done => exact ⟨hm, by simp⟩
  | @expiry m m' p coming ts armed first rest ih =>
    have hafter : P (expiryTurn E m p).after := (hkept 0).expire m p.generation hm
    obtain ⟨hend, hturns⟩ := ih hafter
    refine ⟨hend, fun u hu => ?_⟩
    rcases List.mem_cons.mp hu with rfl | hu
    · exact ⟨hm, hafter⟩
    · exact hturns u hu
  | @arrival m m' a coming ts first rest ih =>
    have hafter : P (arrivalTurn E m a).after := handle_keeps (hkept a.time) hm
    obtain ⟨hend, hturns⟩ := ih hafter
    refine ⟨hend, fun u hu => ?_⟩
    rcases List.mem_cons.mp hu with rfl | hu
    · exact ⟨hm, hafter⟩
    · exact hturns u hu

theorem drop (h : Runs E m arrivals (past ++ t :: future) m') :
    ∃ coming, Runs E t.before coming (t :: future) m' := by
  induction past generalizing m arrivals with
  | nil =>
    have hbefore : t.before = m := by cases h <;> rfl
    rw [hbefore]
    exact ⟨arrivals, h⟩
  | cons u past ih =>
    cases h with
    | expiry armed first rest => exact ih rest
    | arrival first rest => exact ih rest

theorem tail (h : Runs E m arrivals (t :: future) m') :
    ∃ coming, Runs E t.after coming future m' := by
  cases h with
  | expiry armed first rest => exact ⟨_, rest⟩
  | arrival first rest => exact ⟨_, rest⟩

/-- Every arrival is served by one turn, in order. -/
theorem served (h : Runs E m arrivals ts m') : Turn.arrivals ts = arrivals := by
  unfold Turn.arrivals
  induction h with
  | done => rfl
  | expiry armed first rest ih => simpa [expiryTurn, Wake.arrival?] using ih
  | arrival first rest ih => simpa [arrivalTurn, Wake.arrival?] using ih

theorem generation_le_of_mem (h : Runs E m arrivals ts m') :
    ∀ u ∈ ts, m.timer.generation ≤ u.before.timer.generation := by
  intro u hu
  have hkept (now : Nat) := Machine.kept_generation E now m.timer.generation
  exact ((h.keeps hkept (Nat.le_refl _)).2 u hu).1

theorem generation_le (h : Runs E m arrivals (past ++ t :: future) m') :
    ∀ u ∈ past, u.before.timer.generation ≤ t.before.timer.generation ∧
      u.after.timer.generation ≤ t.before.timer.generation := by
  induction past generalizing m arrivals with
  | nil => simp
  | cons u past ih =>
    obtain ⟨coming, hrest⟩ := h.tail
    have hbefore : u.before = m := by cases h <;> rfl
    intro w hw
    rcases List.mem_cons.mp hw with rfl | hw
    · rw [hbefore]
      exact ⟨h.generation_le_of_mem t (by simp), hrest.generation_le_of_mem t (by simp)⟩
    · exact ih hrest w hw

end Runs
end Loop
end ModalKeys
