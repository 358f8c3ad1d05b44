import ModalKeys.Proofs.Loop.Turn
import ModalKeys.Proofs.Machine.Log

/-! Messages that nobody understands. Each of them makes the loop go round once more while a key may
be armed; they change nothing, wherever they come in. -/
namespace ModalKeys

/-- The second list is the first with elements put in that have the property. -/
inductive Padded {α : Type} (P : α → Prop) : List α → List α → Prop where
  | nil : Padded P [] []
  | keep (a : α) {short long : List α} (rest : Padded P short long) :
      Padded P (a :: short) (a :: long)
  | pad {a : α} {short long : List α} (extra : P a) (rest : Padded P short long) :
      Padded P short (a :: long)

namespace Padded

variable {α β : Type} {P : α → Prop} {short long : List α}

theorem sublist (h : Padded P short long) : short.Sublist long := by
  induction h with
  | nil => exact .refl []
  | keep a rest ih => exact ih.cons_cons a
  | pad extra rest ih => exact ih.cons _

/-- What the elements put in do not contribute to is the same for both lists. -/
theorem flatMap_eq {f : α → List β} (hf : ∀ a, P a → f a = []) (h : Padded P short long) :
    long.flatMap f = short.flatMap f := by
  induction h with
  | nil => rfl
  | keep a rest ih => rw [List.flatMap_cons, List.flatMap_cons, ih]
  | pad extra rest ih => rw [List.flatMap_cons, hf _ extra, List.nil_append, ih]

end Padded

/-- A message that cannot be read, or that asks for a mode by a name that no mode has. -/
inductive Arrival.IsGarbled (a : Arrival) : Prop where
  | malformed {text : String} (event : a.event = some (.message text))
      (unread : HostMessage.parse? text = none)
  | unknown {text name : String} (event : a.event = some (.message text))
      (read : HostMessage.parse? text = some (.setMode name))
      (unnamed : ∀ mode, Mode.parse name ≠ .ok mode)

theorem Arrival.IsGarbled.isNoise {a : Arrival} (h : a.IsGarbled) : a.IsNoise := by
  cases h with
  | malformed event unread =>
    exact ⟨by simp [event], by simp [requestedMode?, event, HostEvent.requestedMode?, unread]⟩
  | @unknown text name event read unnamed =>
    have hmode : (Mode.parse name).toOption = none := by
      cases hparse : Mode.parse name with
      | error e => rfl
      | ok mode => exact absurd hparse (unnamed mode)
    exact ⟨by simp [event], by
      simp [requestedMode?, event, HostEvent.requestedMode?, read, HostMessage.requestedMode?,
        hmode]⟩

/-- What a log that has its latest entry first has gained, the first gain first. -/
def gained {α : Type} (before after : List α) : List α :=
  (after.take (after.length - before.length)).reverse

@[simp] theorem gained_append {α : Type} (new before : List α) :
    gained before (new.reverse ++ before) = new := by
  simp [gained]

@[simp] theorem gained_self {α : Type} (log : List α) : gained log log = [] :=
  gained_append [] log

variable {σ : Type}

namespace Turn

/-- The calls of a turn, each at the time of the turn. -/
def calls (t : Turn (σ × List Answered)) : List (Nat × Answered) :=
  (gained t.before.editor.2 t.after.editor.2).map fun call => (t.time, call)

theorem calls_eq {t : Turn (σ × List Answered)} {made : List Answered}
    (h : t.before.Calls t.after made) : t.calls = made.map fun call => (t.time, call) := by
  rw [calls, h, gained_append]

/-- The modes that a turn announces, each at the time of the turn. -/
def announcements (t : Turn σ) : List (Nat × Mode) :=
  (gained t.before.state.announced t.after.state.announced).map fun mode => (t.time, mode)

/-- A turn that takes a garbled message in and leaves the machine as it was. -/
structure IsIdle (t : Turn σ) : Prop where
  garbled : ∃ a : Arrival, t.cause = .arrival a ∧ a.IsGarbled
  unchanged : t.after = t.before

theorem IsIdle.calls {t : Turn (σ × List Answered)} (h : t.IsIdle) : t.calls = [] :=
  calls_eq (.of_editor_eq (by rw [h.unchanged]))

theorem IsIdle.announcements {t : Turn σ} (h : t.IsIdle) : t.announcements = [] := by
  simp [Turn.announcements, h.unchanged]

end Turn

namespace Loop

variable {E : Editor σ} {m m' : Machine σ} {arrivals noisy : List Arrival} {ts : List (Turn σ)}

theorem time_le_of_head {time : Nat} (h : ∀ a ∈ arrivals.head?, time ≤ a.time)
    (hs : arrivals.Pairwise fun a b => a.time ≤ b.time) : ∀ a ∈ arrivals, time ≤ a.time := by
  cases arrivals with
  | nil => simp
  | cons b coming =>
    have hb : time ≤ b.time := h b (by simp)
    intro a ha
    rcases List.mem_cons.mp ha with rfl | ha
    · exact hb
    · exact Nat.le_trans hb ((List.pairwise_cons.mp hs).1 a ha)

/-- Without the garbled messages the process does the same turns but the idle ones. -/
theorem Runs.of_padded (h : Runs E m noisy ts m') (hp : Padded Arrival.IsGarbled arrivals noisy)
    (hs : noisy.Pairwise fun a b => a.time ≤ b.time) :
    ∃ us, Runs E m arrivals us m' ∧ Padded Turn.IsIdle us ts := by
  induction h generalizing arrivals with
  | done unarmed =>
    cases hp
    exact ⟨[], .done unarmed, .nil⟩
  | @expiry m m' p noisy ts armed first rest ih =>
    obtain ⟨us, hruns, hpadded⟩ := ih hp hs
    -- the next arrival is one of the noisy ones, so the deadline still comes first
    have hfirst : ∀ a ∈ arrivals.head?, p.deadline ≤ a.time := fun a ha =>
      time_le_of_head first hs a (hp.sublist.subset (List.mem_of_head? ha))
    exact ⟨_, .expiry armed hfirst hruns, .keep _ hpadded⟩
  | @arrival m m' a noisy ts first rest ih =>
    have hrest := (List.pairwise_cons.mp hs).2
    cases hp with
    | keep a hp =>
      obtain ⟨us, hruns, hpadded⟩ := ih hp hrest
      exact ⟨_, .arrival first hruns, .keep _ hpadded⟩
    | pad hgarbled hp =>
      have hsame : (arrivalTurn E m a).after = m := handle_noise hgarbled.isNoise
      obtain ⟨us, hruns, hpadded⟩ := ih hp hrest
      rw [hsame] at hruns
      exact ⟨us, hruns, .pad ⟨⟨a, rfl, hgarbled⟩, hsame⟩ hpadded⟩

/-- Garbled messages put in anywhere leave everything as it is. The loop takes the same turns at the
same times with the same machines before and after, but for those of the messages, which change
nothing; so the same calls are made and the same modes announced at the same times, and the loop
returns the same machine. -/
theorem run_padded (E : Editor σ) (m : Machine (σ × List Answered)) (arrivals noisy : List Arrival)
    (hp : Padded Arrival.IsGarbled arrivals noisy)
    (hs : noisy.Pairwise fun a b => a.time ≤ b.time) :
    Padded Turn.IsIdle (turns E.logged arrivals m) (turns E.logged noisy m) ∧
      (turns E.logged noisy m).flatMap Turn.calls =
        (turns E.logged arrivals m).flatMap Turn.calls ∧
      (turns E.logged noisy m).flatMap Turn.announcements =
        (turns E.logged arrivals m).flatMap Turn.announcements ∧
      run E.logged noisy m = run E.logged arrivals m := by
  obtain ⟨us, hruns, hpadded⟩ := (runs_turns (E := E.logged) noisy m).of_padded hp hs
  obtain ⟨hus, hend⟩ := runs_iff.mp hruns
  rw [hus] at hpadded
  exact ⟨hpadded, hpadded.flatMap_eq fun _ => Turn.IsIdle.calls,
    hpadded.flatMap_eq fun _ => Turn.IsIdle.announcements, hend⟩

/-- A malformed message at the deadline and one after it, and an unknown mode while the key is
armed: the key expires at its deadline all the same. -/
theorem run_padded_deadline :
    let E : Editor Unit := Device.silent
    let m : Machine (Unit × List Answered) := { editor := ((), []), state := { mode := .command } }
    let replace := "\x7b\"type\":\"setMode\",\"mode\":\"replace\"\x7d"
    let key : Option HostEvent := some (.key ⟨"d", .unknown⟩)
    let arrivals : List Arrival := [⟨0, key⟩, ⟨900, key⟩]
    let noisy : List Arrival := [⟨0, key⟩, ⟨499, some (.message replace)⟩,
      ⟨500, some (.message "oops")⟩, ⟨900, some (.message "oops")⟩, ⟨900, key⟩]
    Padded Arrival.IsGarbled arrivals noisy ∧ (noisy.Pairwise fun a b => a.time ≤ b.time) ∧
      ((turns E.logged noisy m).flatMap Turn.calls).map (fun made => (made.1, made.2.1)) =
        [(500, .deleteAtCursor), (1400, .deleteAtCursor)] ∧
      run E.logged noisy m = run E.logged arrivals m := by
  intro E m replace key arrivals noisy
  have hoops (time : Nat) : Arrival.IsGarbled ⟨time, some (.message "oops")⟩ :=
    .malformed rfl (by decide)
  have hread : HostMessage.parse? replace = some (.setMode "replace") := by decide +kernel
  have hnone : (Mode.parse "replace").toOption = none := by decide
  have hunnamed : ∀ mode, Mode.parse "replace" ≠ .ok mode := by
    intro mode hmode
    rw [hmode] at hnone
    cases hnone
  have hp : Padded Arrival.IsGarbled arrivals noisy :=
    .keep _ (.pad (.unknown rfl hread hunnamed) (.pad (hoops 500) (.pad (hoops 900)
      (.keep _ .nil))))
  have hs : noisy.Pairwise fun a b => a.time ≤ b.time := by decide
  obtain ⟨-, hcalls, -, hrun⟩ := run_padded E m arrivals noisy hp hs
  refine ⟨hp, hs, ?_, hrun⟩
  rw [hcalls]
  decide

end Loop
end ModalKeys
