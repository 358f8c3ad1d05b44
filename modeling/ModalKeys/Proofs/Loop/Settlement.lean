import ModalKeys.Proofs.Loop.Turn
import ModalKeys.Proofs.Machine.Log

/-! What becomes of a key that the loop arms. The next key or mode change ends it if that comes
strictly before its deadline; otherwise it expires at the deadline. A cancelled or expired
generation is never armed again, so no key is settled twice. -/
namespace ModalKeys

variable {σ : Type}

/-- The call of a two-key command whose first key can expire. -/
def partnerCall? : String → String → Option EditorCall
  | "g", "g" => some .documentStart
  | "y", "y" => some .yankLine
  | "d", "d" => some .deleteLine
  | _, _ => none

namespace Turn

variable (E : Editor σ) (p : Armed) (t : Turn (σ × List Answered))

/-- The key is armed by this turn and was not before. -/
def Arms : Prop := t.before.timer.armed ≠ some p ∧ t.after.timer.armed = some p

/-- At neither end of the turn is the key armed. -/
def Without : Prop := t.before.timer.armed ≠ some p ∧ t.after.timer.armed ≠ some p

/-- The turn reads a key that opens a two-key command. -/
structure Opens (timeout : Nat) : Prop where
  arrival : ∃ a input, t = Loop.arrivalTurn E.logged t.before a ∧
    a.event = some (.key input) ∧ input.key = p.key
  key : p.key ∈ ["g", "y", "d"]
  deadline : p.deadline = t.time + timeout

/-- Something comes in ahead of the deadline that the machine does not hear. -/
structure Quiet (m : Machine (σ × List Answered)) : Prop where
  noise : ∃ a : Arrival, t.cause = .arrival a ∧ t.time = a.time ∧ a.IsNoise
  early : t.time < p.deadline
  before : t.before = m
  after : t.after = m

/-- A key that comes in ahead of the deadline completes the armed one or drops it; a colon takes
its place. -/
structure ClosedBy (key : String) : Prop where
  early : t.time < p.deadline
  after : t.after =
    if key = ":" then
      { t.before with state.pending := ":", timer := t.before.timer.cancel }
    else (t.before.close key).carryOut E.logged (Grammar.resolve? p.key key)
  calls : ∃ calls, t.before.Calls t.after calls ∧
    calls.map Prod.fst = (partnerCall? p.key key).toList
  slot : t.after.state.pending = if key = ":" then ":" else ""

/-- How a turn can end an armed key. -/
inductive Settles : Prop where
  | key (a : Arrival) (input : KeyInput) (turn : t = Loop.arrivalTurn E.logged t.before a)
      (event : a.event = some (.key input)) (closed : t.ClosedBy E p input.key)
  | mode (a : Arrival) (mode : Mode) (turn : t = Loop.arrivalTurn E.logged t.before a)
      (asked : a.requestedMode? = some mode) (early : t.time < p.deadline)
      (after : t.after = t.before.setMode mode)
  | expiry (calls : List Answered) (turn : t = Loop.expiryTurn E.logged t.before p)
      (time : t.time = p.deadline) (made : t.before.Calls t.after calls)
      (fallback : Machine.FallbackCalls p.key calls) (slot : t.after.state.pending = "")

end Turn

namespace Loop

variable {E : Editor σ} {m m' : Machine (σ × List Answered)} {p : Armed} {a : Arrival}
  {arrivals : List Arrival} {ts : List (Turn (σ × List Answered))}

/-! ## One turn with an armed key -/

theorem partner_calls {first : String} (hfirst : first ∈ ["g", "y", "d"]) (second : String) :
    ∃ calls, m.Calls (m.carryOut E.logged (Grammar.resolve? first second)) calls ∧
      calls.map Prod.fst = (partnerCall? first second).toList := by
  by_cases h : first = second
  · subst h
    simp only [List.mem_cons, List.not_mem_nil, or_false] at hfirst
    rcases hfirst with rfl | rfl | rfl
    · obtain ⟨answer, h⟩ := m.perform_single E (a := .documentStart) rfl (.inl rfl)
      exact ⟨_, h, rfl⟩
    · obtain ⟨answer, h⟩ := m.perform_single E (a := .yankLine) rfl (.inr rfl)
      exact ⟨_, h, rfl⟩
    · obtain ⟨answer, h⟩ := m.perform_single E (a := .deleteLine) rfl (.inl rfl)
      exact ⟨_, h, rfl⟩
  · have haction : Grammar.resolve? first second = none := by
      unfold Grammar.resolve?
      split <;> simp_all
    have hcall : partnerCall? first second = none := by
      unfold partnerCall?
      split <;> simp_all
    rw [haction, hcall]
    exact ⟨[], .refl m, rfl⟩

/-- While a key is armed every key is read as the partner or as a colon. -/
theorem read_armed {n : Machine σ} {now : Nat} (hn : Sound n) (hp : n.timer.armed = some p)
    (key : String) :
    (n.read E now key).2 =
      if key = ":" then { n with state.pending := ":", timer := n.timer.cancel }
      else (n.close key).carryOut E (Grammar.resolve? p.key key) := by
  have hmode : n.state.mode = .command := hn.command hp
  obtain ⟨hmem, hslot, -⟩ := hn.armed hp
  have hopen : n.state.pending ≠ "" := by
    intro hempty
    simp [← hslot, hempty] at hmem
  obtain ⟨d, n', hr, h⟩ := n.read_reads E now key
  rw [hr]
  cases h with
  | colon _ colon => rw [if_pos colon]
  | second _ colon => rw [if_neg colon, hslot]
  | opens _ slot => exact absurd slot hopen
  | single _ _ slot => exact absurd slot hopen
  | off mode => simp [hmode] at mode
  | escape mode => simp [hmode] at mode
  | typed mode => simp [hmode] at mode
  | visual mode => simp [hmode] at mode

theorem handle_key_armed {n : Machine σ} {input : KeyInput} (hn : Sound n)
    (hp : n.timer.armed = some p) (hearly : a.time < p.deadline)
    (he : a.event = some (.key input)) : handle E n a = (n.read E a.time input.key).2 := by
  have hmode : n.state.mode = .command := hn.command hp
  have htaken : ¬ n.LeavesAlone input := by simp [Machine.LeavesAlone, hmode]
  have hnone : n.expireDue E a.time = (false, n) := by
    apply Machine.expireDue_early
    intro q hq
    rw [hp, Option.some.injEq] at hq
    rw [← hq]
    exact hearly
  rw [handle_key he, Machine.dispatchInput_eq_dispatch E a.time htaken, Machine.dispatch_eq_read,
    hnone]

theorem closedBy_key {input : KeyInput} (hm : Sound m) (hp : m.timer.armed = some p)
    (hearly : a.time < p.deadline) (he : a.event = some (.key input)) :
    (arrivalTurn E.logged m a).ClosedBy E p input.key := by
  have hafter := (handle_key_armed (E := E.logged) hm hp hearly he).trans
    (read_armed (E := E.logged) hm hp input.key)
  refine ⟨hearly, hafter, ?_, ?_⟩
  · change ∃ calls, m.Calls (handle E.logged m a) calls ∧ _
    rw [hafter]
    split
    · rename_i hcolon
      have hnone : partnerCall? p.key input.key = none := by
        rw [hcolon]
        unfold partnerCall?
        split <;> simp_all
      rw [hnone]
      exact ⟨[], .of_editor_eq rfl, rfl⟩
    · exact partner_calls (m := m.close input.key) (hm.armed hp).1 input.key
  · change (handle E.logged m a).state.pending = _
    rw [hafter]
    split
    · rfl
    · simp [Machine.close]

theorem settles_expiry (hm : Sound m) (hp : m.timer.armed = some p) :
    (expiryTurn E.logged m p).Settles E p := by
  obtain ⟨-, hslot, -⟩ := hm.armed hp
  have hfired : (m.expire E.logged p.generation).2 = m.lapse E.logged := by
    obtain ⟨fired, m', he, h⟩ := m.expire_expires E.logged p.generation
    rw [he]
    cases h with
    | stale h => exact absurd rfl (h p hp)
    | foreign armed live slot =>
      rw [hp, Option.some.injEq] at armed
      exact absurd (armed ▸ hslot) slot
    | fired => rfl
  obtain ⟨calls, hcalls, hfall, -⟩ := m.lapse_calls E
  have hfallback : Machine.FallbackCalls p.key calls := hslot ▸ hfall (hm.command hp)
  refine .expiry calls rfl rfl ?_ hfallback ?_
  · change m.Calls (m.expire E.logged p.generation).2 calls
    rw [hfired]
    exact hcalls
  · change (m.expire E.logged p.generation).2.state.pending = ""
    rw [hfired, Machine.lapse_pending]

theorem settles_or_quiet (hm : Sound m) (hp : m.timer.armed = some p)
    (hearly : a.time < p.deadline) :
    (arrivalTurn E.logged m a).Settles E p ∨ (arrivalTurn E.logged m a).Quiet p m := by
  rcases a.cases_event with ⟨input, he⟩ | ⟨mode, hmode⟩ | hnoise
  · exact .inl (.key a input rfl he (closedBy_key hm hp hearly he))
  · exact .inl (.mode a mode rfl hmode hearly (handle_mode hmode))
  · exact .inr ⟨⟨a, rfl, rfl, hnoise⟩, hearly, rfl, handle_noise hnoise⟩

theorem settles_unarmed {t : Turn (σ × List Answered)} (h : t.Settles E p)
    (hp : t.before.timer.armed = some p) : t.after.timer.armed = none := by
  cases h with
  | key a input turn event closed =>
    rw [closed.after]
    split
    · exact PrefixTimer.cancel_armed
    · simp [Machine.close]
  | mode a mode turn asked early after =>
    rw [after]
    exact Machine.setMode_unarmed mode
  | expiry calls turn =>
    rw [turn]
    exact Machine.expire_unarmed hp

/-! ## Whole runs -/

theorem handle_arms {n : Machine σ} (hearly : ∀ q, n.timer.armed = some q → a.time < q.deadline)
    (hbefore : n.timer.armed ≠ some p) (hafter : (handle E n a).timer.armed = some p) :
    ∃ input, a.event = some (.key input) ∧ n.Opens a.time input.key p := by
  rcases a.cases_event with ⟨input, he⟩ | ⟨mode, hmode⟩ | hnoise
  · rw [handle_key he] at hafter
    by_cases hl : n.LeavesAlone input
    · rw [Machine.dispatchInput_alone E a.time hl] at hafter
      exact absurd hafter hbefore
    · rw [Machine.dispatchInput_eq_dispatch E a.time hl, Machine.dispatch_eq_read,
        Machine.expireDue_early hearly] at hafter
      rcases Machine.armed_of_read hafter with hopens | ⟨-, hsame⟩
      · exact ⟨input, he, hopens⟩
      · exact absurd hsame hbefore
  · rw [handle_mode hmode, Machine.setMode_unarmed] at hafter
    cases hafter
  · rw [handle_noise hnoise] at hafter
    exact absurd hafter hbefore

theorem opens_of_arms {t : Turn (σ × List Answered)} {future : List (Turn (σ × List Answered))}
    (h : Runs E.logged t.before arrivals (t :: future) m') (ht : t.Arms p) :
    t.Opens E p t.before.timer.timeout ∧ t.before.timer.generation < p.generation := by
  obtain ⟨hbefore, hafter⟩ := ht
  generalize hn : t.before = n at h hbefore ⊢
  cases h with
  | expiry armed =>
    rw [expiryTurn, Machine.expire_unarmed armed] at hafter
    cases hafter
  | @arrival _ _ a _ _ first =>
    obtain ⟨input, he, hopens⟩ := handle_arms first hbefore hafter
    exact ⟨⟨⟨a, input, rfl, he, hopens.key_eq.symm⟩, hopens.key_eq ▸ hopens.first, hopens.deadline⟩,
      hopens.generation⟩

theorem without_of_passed {later : List (Turn (σ × List Answered))}
    (h : Runs E.logged m arrivals later m') (hm : Passed p.generation m) :
    ∀ u ∈ later, u.Without p := by
  intro u hu
  obtain ⟨hbefore, hafter⟩ := (h.keeps (fun _ => Passed.kept) hm).2 u hu
  exact ⟨hbefore.ne, hafter.ne⟩

/-- A run that starts with an armed key is quiet until a turn that settles the key for good. -/
theorem settled_of_armed (h : Runs E.logged m arrivals ts m') (hm : Sound m)
    (hp : m.timer.armed = some p) :
    ∃ quiet s later, ts = quiet ++ s :: later ∧ (∀ u ∈ quiet, u.Quiet p m) ∧
      s.before = m ∧ s.Settles E p ∧ (∀ u ∈ later, u.Without p) ∧
      (s.cause = .deadline p → ∀ a ∈ (Turn.arrivals later).head?, p.deadline ≤ a.time) := by
  obtain ⟨-, -, hgen⟩ := hm.armed hp
  -- noise leaves the machine as it was, so the run goes on from the same armed key
  induction h with
  | done unarmed => simp [unarmed] at hp
  | @expiry m m' q coming later armed first rest ih =>
    obtain rfl : q = p := by
      rw [armed, Option.some.injEq] at hp
      exact hp
    have hpassed : Passed q.generation (expiryTurn E.logged m q).after :=
      .of_unarmed (hgen ▸ m.generation_le_expire E.logged q.generation)
        (Machine.expire_unarmed armed)
    exact ⟨[], _, later, rfl, by simp, rfl, settles_expiry hm armed,
      without_of_passed rest hpassed, fun _ => rest.served ▸ first⟩
  | @arrival m m' a coming later first rest ih =>
    rcases settles_or_quiet (E := E) hm hp (first p hp) with hsettles | hquiet
    · have hle : p.generation ≤ (handle E.logged m a).timer.generation :=
        handle_keeps (Machine.kept_generation E.logged a.time p.generation) (Nat.le_of_eq hgen)
      have hpassed : Passed p.generation (arrivalTurn E.logged m a).after :=
        .of_unarmed hle (settles_unarmed hsettles hp)
      exact ⟨[], _, later, rfl, by simp, rfl, hsettles, without_of_passed rest hpassed,
        fun hcause => by cases hcause⟩
    · have hafter : (arrivalTurn E.logged m a).after = m := hquiet.after
      rw [hafter] at ih
      obtain ⟨quiet, s, last, hts, hquiets, hbefore, hsettles, hlast⟩ := ih hm hp hgen
      refine ⟨arrivalTurn E.logged m a :: quiet, s, last, by rw [hts]; rfl, ?_, hbefore, hsettles,
        hlast⟩
      intro u hu
      rcases List.mem_cons.mp hu with rfl | hu
      · exact hquiet
      · exact hquiets u hu

theorem without_of_arms {past future : List (Turn (σ × List Answered))}
    {t : Turn (σ × List Answered)} (h : Runs E.logged m arrivals (past ++ t :: future) m')
    (hm : Sound m) (hgen : t.before.timer.generation < p.generation) :
    ∀ u ∈ past, u.Without p := by
  intro u hu
  obtain ⟨hbefore, hafter⟩ := (h.keeps (fun _ => Sound.kept) hm).2 u (by simp [hu])
  obtain ⟨hlebefore, hleafter⟩ := h.generation_le u hu
  -- an armed key has the latest generation, and that of `p` is still to come
  constructor
  · intro hp
    obtain ⟨-, -, heq⟩ := hbefore.armed hp
    omega
  · intro hp
    obtain ⟨-, -, heq⟩ := hafter.armed hp
    omega

/-- The turns are the moments of the loop, one for each arrival besides the deadlines, and each key
that is armed at one of them is settled at one of the later ones: by the next key or mode change if
that comes ahead of the deadline, else by an expiry at the deadline, ahead of an arrival of that
instant and of none that comes sooner. Until then nothing is heard, and neither earlier nor later
does the key stand armed. -/
theorem settled_once (E : Editor σ) (m : Machine (σ × List Answered)) (hm : m.Idle)
    (arrivals : List Arrival) :
    (turns E.logged arrivals m).map (fun t => ⟨t.time, t.after⟩) = moments E.logged arrivals m ∧
      Turn.arrivals (turns E.logged arrivals m) = arrivals ∧
      (∀ past t future p, turns E.logged arrivals m = past ++ t :: future → t.Arms p →
        t.Opens E p m.timer.timeout ∧
          ∃ quiet s later, future = quiet ++ s :: later ∧ (∀ u ∈ quiet, u.Quiet p t.after) ∧
            s.before = t.after ∧ s.Settles E p ∧ (∀ u ∈ past ++ later, u.Without p) ∧
            (s.cause = .deadline p → ∀ a ∈ (Turn.arrivals later).head?, p.deadline ≤ a.time)) ∧
      (run E.logged arrivals m).timer.armed = none ∧
      (run E.logged arrivals m).state.pending ∈ ["", ":"] := by
  have hruns := runs_turns (E := E.logged) arrivals m
  have hsound := hruns.keeps (fun _ => Sound.kept) (.of_idle hm)
  have hunarmed : (run E.logged arrivals m).timer.armed = none := close_armed_eq_none _
  refine ⟨map_turns arrivals m, hruns.served, ?_, hunarmed, hsound.1.slot_of_unarmed hunarmed⟩
  intro past t future p hts harms
  rw [hts] at hruns hsound
  have htimeout : t.before.timer.timeout = m.timer.timeout :=
    ((hruns.keeps (fun now => Machine.kept_timeout E.logged now m.timer.timeout) rfl).2 t
      (by simp)).1
  obtain ⟨coming, hhere⟩ := hruns.drop
  obtain ⟨rest, hrest⟩ := hhere.tail
  obtain ⟨hopens, hgen⟩ := opens_of_arms hhere harms
  have hpast := without_of_arms hruns (.of_idle hm) hgen
  obtain ⟨quiet, s, later, hfuture, hquiet, hbefore, hsettles, hlater, hnext⟩ :=
    settled_of_armed hrest (hsound.2 t (by simp)).2 harms.2
  refine ⟨htimeout ▸ hopens, quiet, s, later, hfuture, hquiet, hbefore, hsettles, ?_, hnext⟩
  intro u hu
  rcases List.mem_append.mp hu with hu | hu
  · exact hpast u hu
  · exact hlater u hu

/-- The second key comes at the deadline of the first, which expires ahead of it; the second is
armed at the same instant and cancelled in time. -/
theorem settled_once_same_instant :
    let E : Editor Unit := Device.silent
    let m : Machine (Unit × List Answered) := { editor := ((), []), state := { mode := .command } }
    let arrivals : List Arrival := [⟨0, some (.key ⟨"d", .unknown⟩)⟩,
      ⟨100, some (.message "oops")⟩, ⟨500, some (.key ⟨"d", .unknown⟩)⟩,
      ⟨999, some (.toggle false)⟩]
    m.Idle ∧ (turns E.logged arrivals m).map (·.time) = [0, 100, 500, 500, 999] ∧
      (∃ s ∈ turns E.logged arrivals m, s.before.timer.armed = some ⟨1, "d", 500⟩ ∧
        s.Settles E ⟨1, "d", 500⟩) ∧
      (run E.logged arrivals m).timer.armed = none ∧
      (run E.logged arrivals m).editor.2.map Prod.fst = [.deleteAtCursor] := by
  intro E m arrivals
  have hm : m.Idle := ⟨rfl, rfl⟩
  obtain ⟨-, -, hsettled, hunarmed, -⟩ := settled_once E m hm arrivals
  have hfirst : turns E.logged arrivals m =
      [] ++ arrivalTurn E.logged m arrivals[0] :: (turns E.logged arrivals m).tail := rfl
  have harms : (arrivalTurn E.logged m arrivals[0]).Arms ⟨1, "d", 500⟩ := by
    constructor <;> decide
  obtain ⟨-, quiet, s, later, hfuture, -, hbefore, hsettles, -⟩ := hsettled _ _ _ _ hfirst harms
  refine ⟨hm, by decide, ⟨s, ?_, hbefore ▸ harms.2, hsettles⟩, hunarmed, by decide⟩
  rw [hfirst, hfuture]
  simp

end Loop
end ModalKeys
