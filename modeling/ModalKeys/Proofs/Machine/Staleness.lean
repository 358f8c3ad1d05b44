import ModalKeys.Proofs.Machine.Destruction

/-! Which expiries do anything. An expiry fires for the armed key alone; once that key has been
completed, dropped, cancelled or has expired its generation is passed, and however the session goes
on no expiry of it fires again. -/
namespace ModalKeys

variable {σ : Type}

/-! ## One expiry -/

namespace Coherent

variable {m : Machine σ} {now : Nat}

/-- Where the slot and the timer agree an expiry fires or does nothing at all. -/
theorem expire_cases (h : Coherent now m) (E : Editor σ) (generation : Nat) :
    (∃ a, m.timer.armed = some a ∧ a.generation = generation ∧
        m.expire E generation = (true, m.lapse E)) ∨
      (∀ a, m.timer.armed = some a → a.generation ≠ generation) ∧
        m.expire E generation = (false, m) := by
  obtain ⟨fired, m', he, h'⟩ := m.expire_expires E generation
  cases h' with
  | stale hstale => exact .inr ⟨hstale, he⟩
  | foreign armed live slot => exact absurd (h.key_eq armed) slot
  | fired armed live slot => exact .inl ⟨_, armed, live, he⟩

theorem expire_fires_iff (h : Coherent now m) (E : Editor σ) (generation : Nat) :
    (m.expire E generation).1 = true ↔
      ∃ a, m.timer.armed = some a ∧ a.generation = generation := by
  rcases h.expire_cases E generation with ⟨a, ha, hgen, he⟩ | ⟨hstale, he⟩
  · rw [he]
    exact ⟨fun _ => ⟨a, ha, hgen⟩, fun _ => rfl⟩
  · rw [he]
    exact ⟨nofun, fun ⟨a, ha, hgen⟩ => absurd hgen (hstale a ha)⟩

theorem run {E : Editor σ} {x : Moment σ} (hx : x.machine.Idle) {ops : List Operation}
    (hops : ∀ op ∈ ops, op.isWrite = false) : Coherent (x.run E ops).time (x.run E ops).machine :=
  x.run_keeps (P := fun y => Coherent y.time y.machine) E
    (fun op hop _ hy => hy.apply (hops op hop)) (.of_idle hx)

end Coherent

/-! ## Generations -/

namespace Machine

variable (E : Editor σ) (m : Machine σ) (now : Nat)

@[simp] theorem expire_keeps_generation (generation : Nat) :
    (m.expire E generation).2.timer.generation = m.timer.generation := by
  obtain ⟨fired, m', he, h⟩ := m.expire_expires E generation
  rw [he]
  cases h <;> simp

@[simp] theorem expireDue_keeps_generation :
    (m.expireDue E now).2.timer.generation = m.timer.generation := by
  rcases m.expireDue_cases E now with ⟨-, he⟩ | ⟨a, -, -, he⟩ <;> simp [he]

variable {m now}

/-- A key cancels or arms, but not both: it arms on an empty slot only. -/
theorem read_generation_le {time : Nat} (h : Coherent time m) (key : String) :
    (m.read E now key).2.timer.generation ≤ m.timer.generation + 1 := by
  have hcancel : m.timer.cancel.generation ≤ m.timer.generation + 1 :=
    PrefixTimer.cancel_generation_le
  obtain ⟨d, m', hr, h'⟩ := m.read_reads E now key
  rw [hr]
  cases h' with
  | colon => exact hcancel
  | second => simpa [close] using hcancel
  | opens mode slot =>
    have hunarmed : m.timer.armed = none := by
      simpa [slot] using h.armed_iff
    simp [PrefixTimer.cancel_of_unarmed hunarmed]
  | single => simpa [close] using hcancel
  | _ => simp

theorem dispatch_generation_le (h : Coherent now m) (key : String) :
    (m.dispatch E now key).2.timer.generation ≤ m.timer.generation + 1 := by
  have hafter : Coherent now (m.expireDue E now).2 := Coherent.kept.expireDue now h
  have hread : ((m.expireDue E now).2.read E now key).2.timer.generation ≤
      (m.expireDue E now).2.timer.generation + 1 := read_generation_le E hafter key
  rwa [expireDue_keeps_generation] at hread

/-- Outside command mode the timer runs on while keys are read. -/
theorem read_timer (mode : m.state.mode ≠ .command) (key : String) :
    (m.read E now key).2.timer = m.timer := by
  obtain ⟨d, m', hr, h⟩ := m.read_reads E now key
  rw [hr]
  cases h with
  | colon command | second command | opens command | single command =>
    exact absurd command mode
  | _ => simp

end Machine

namespace Passed

variable {E : Editor σ} {generation : Nat} {m m' : Machine σ} {x : Moment σ}

theorem congr (h : Passed generation m) (ht : m'.timer = m.timer) : Passed generation m' :=
  ⟨ht ▸ h.le, ht ▸ h.lt⟩

theorem stale (h : Passed generation m) : (m.expire E generation).1 = false := by
  rw [Machine.expire_stale fun a ha => Nat.ne_of_gt (h.lt a ha)]

/-- No operation brings a generation back, a write to the state included. -/
theorem apply (h : Passed generation x.machine) (op : Operation) :
    Passed generation (x.apply E op).machine :=
  x.apply_keeps kept (fun _ _ _ hm => hm.congr rfl) (fun _ _ _ hm => hm.congr rfl) h

end Passed

/-! ## Runs -/

namespace Moment

variable {E : Editor σ} {x : Moment σ} {op : Operation} {a : Armed}

theorem apply_generation_le (h : Coherent x.time x.machine) (op : Operation) :
    (x.apply E op).machine.timer.generation ≤ x.machine.timer.generation + 1 := by
  cases op with
  | dispatch key => exact Machine.dispatch_generation_le E h key
  | dispatchInput input =>
    by_cases hl : x.machine.LeavesAlone input
    · simp [apply, Machine.dispatchInput_alone, hl]
    · rw [apply, Machine.dispatchInput_eq_dispatch E x.time hl]
      exact Machine.dispatch_generation_le E h input.key
  | setMode mode => exact PrefixTimer.cancel_generation_le
  | expire generation => simp [apply]
  | expireDue => simp [apply]
  | perform action => simp [apply]
  | advance span => simp [apply]
  | write w => simp [apply]

theorem run_generation_le (hx : Coherent x.time x.machine) (ops : List Operation)
    (hops : ∀ op ∈ ops, op.isWrite = false) :
    (x.run E ops).machine.timer.generation ≤ x.machine.timer.generation + ops.length := by
  induction ops generalizing x with
  | nil => simp
  | cons op ops ih =>
    have hnext : Coherent (x.apply E op).time (x.apply E op).machine := hx.apply (hops op (by simp))
    have hstep := apply_generation_le (E := E) hx op
    have hlater := ih hnext fun o ho => hops o (by simp [ho])
    change ((x.apply E op).run E ops).machine.timer.generation ≤ _
    rw [List.length_cons]
    omega

/-- How many expiries of a generation come back as live. -/
def firings (E : Editor σ) (generation : Nat) (ops : List Operation) (x : Moment σ) : Nat :=
  (ops.zip (answers E ops x)).count (.expire generation, .expiry true)

theorem firings_cons (generation : Nat) (op : Operation) (ops : List Operation) :
    firings E generation (op :: ops) x = firings E generation ops (x.apply E op) +
      if (op, x.answer E op) = (.expire generation, .expiry true) then 1 else 0 := by
  simp only [firings, answers, List.zip_cons_cons, List.count_cons, beq_iff_eq]

theorem firings_of_passed {generation : Nat} (h : Passed generation x.machine)
    (ops : List Operation) : firings E generation ops x = 0 := by
  induction ops generalizing x with
  | nil => rfl
  | cons op ops ih =>
    have hsilent : (op, x.answer E op) ≠ (.expire generation, .expiry true) := by
      intro he
      obtain ⟨rfl, hfired⟩ := Prod.mk.inj he
      simp [answer, h.stale] at hfired
    rw [firings_cons, ih (h.apply op), if_neg hsilent]

theorem firings_le_one (hx : Coherent x.time x.machine) (generation : Nat) (ops : List Operation)
    (hops : ∀ op ∈ ops, op.isWrite = false) : firings E generation ops x ≤ 1 := by
  induction ops generalizing x with
  | nil => simp [firings]
  | cons op ops ih =>
    rw [firings_cons]
    split
    · rename_i he
      obtain ⟨rfl, hfired⟩ := Prod.mk.inj he
      obtain ⟨a, ha, hgen⟩ := (hx.expire_fires_iff E generation).mp (by simpa [answer] using hfired)
      -- the expiry that fires is that of the armed key, which is gone then
      have hunarmed := Machine.expire_unarmed (E := E) ha
      rw [hgen] at hunarmed
      have hcurrent : a.generation = x.machine.timer.generation := (hx.live a ha).2.1
      have hpassed : Passed generation (x.machine.expire E generation).2 :=
        .of_unarmed (by rw [Machine.expire_keeps_generation]; omega) hunarmed
      have hlater : firings E generation ops (x.apply E (.expire generation)) = 0 :=
        firings_of_passed hpassed ops
      omega
    · exact ih (hx.apply (hops op (by simp))) fun o ho => hops o (by simp [ho])

/-- The operation ends the wait of the armed key: it reads a key as a command, which completes the
armed one, drops it or takes its place; it sets a mode; or it lets the key expire. -/
def Ends (E : Editor σ) (x : Moment σ) (op : Operation) (a : Armed) : Prop :=
  x.Commands E op ∨ x.LetsExpire op a

theorem lapsed_unarmed (ha : x.machine.timer.armed = some a) (h : x.LetsExpire op a) :
    (x.lapsed E op).timer.armed = none := by
  have hdue (hd : a.deadline ≤ x.time) :
      (x.machine.expireDue E x.time).2.timer.armed = none := by
    rw [Machine.expireDue_due ha hd]
    exact Machine.expire_unarmed ha
  rcases h with rfl | ⟨hd, rfl | hreads⟩
  · exact Machine.expire_unarmed ha
  · exact hdue hd
  · cases op with
    | dispatch key => exact hdue hd
    | dispatchInput input =>
      have hlapsed : x.lapsed E (.dispatchInput input) = (x.machine.expireDue E x.time).2 :=
        if_pos (Option.isSome_iff_ne_none.mpr hreads)
      rw [hlapsed]
      exact hdue hd
    | _ => exact absurd rfl hreads

theorem lapsed_eq (ha : x.machine.timer.armed = some a) (h : ¬ x.LetsExpire op a) :
    x.lapsed E op = x.machine := by
  have hdue (hop : op = .expireDue ∨ x.reads? op ≠ none) :
      (x.machine.expireDue E x.time).2 = x.machine := by
    have hearly : ∀ b, x.machine.timer.armed = some b → x.time < b.deadline := by
      intro b hb
      rw [ha, Option.some.injEq] at hb
      subst hb
      exact Nat.lt_of_not_le fun hd => h (.inr ⟨hd, hop⟩)
    rw [Machine.expireDue_early hearly]
  unfold lapsed
  split
  · rename_i generation
    have hstale : ∀ b, x.machine.timer.armed = some b → b.generation ≠ generation := by
      intro b hb
      rw [ha, Option.some.injEq] at hb
      subst hb
      exact fun hgen => h (.inl (by rw [hgen]))
    rw [Machine.expire_stale hstale]
  · exact hdue (.inl rfl)
  · split
    · rename_i hreads
      exact hdue (.inr (Option.isSome_iff_ne_none.mp hreads))
    · rfl

theorem lapsed_keeps_generation (op : Operation) :
    (x.lapsed E op).timer.generation = x.machine.timer.generation := by
  unfold lapsed
  split
  · simp
  · simp
  · split <;> simp

/-- What ends the wait of a key passes its generation. -/
theorem passed_of_ends (hx : Coherent x.time x.machine) (ha : x.machine.timer.armed = some a)
    (h : x.Ends E op a) : Passed a.generation (x.apply E op).machine := by
  have hcurrent : a.generation = x.machine.timer.generation := (hx.live a ha).2.1
  have hle : a.generation ≤ (x.lapsed E op).timer.generation :=
    Nat.le_of_eq (hcurrent.trans (lapsed_keeps_generation op).symm)
  rcases h with (⟨mode, rfl⟩ | ⟨key, hreads, mode⟩) | hlapses
  · exact .of_unarmed (hcurrent ▸ x.machine.generation_le_setMode mode)
      (Machine.setMode_unarmed mode)
  · rw [apply_reads hreads]
    refine ⟨Nat.le_trans hle (Machine.generation_le_read E _ x.time key), fun b hb => ?_⟩
    rcases Machine.armed_of_read hb with hopens | ⟨hother, -⟩
    · exact Nat.lt_of_le_of_lt hle hopens.generation
    · exact absurd mode hother
  · have hlapsed : Passed a.generation (x.lapsed E op) :=
      .of_unarmed hle (lapsed_unarmed ha hlapses)
    rcases hlapses with rfl | ⟨-, rfl | hreads⟩
    · exact hlapsed
    · exact hlapsed
    · obtain ⟨key, hkey⟩ := Option.ne_none_iff_exists'.mp hreads
      rw [apply_reads hkey]
      exact hlapsed.read key

/-- A key stays armed just until its wait is ended. -/
theorem armed_apply_iff (hx : Coherent x.time x.machine) (ha : x.machine.timer.armed = some a) :
    (x.apply E op).machine.timer.armed = some a ↔ ¬ x.Ends E op a := by
  refine ⟨fun harmed hends => (passed_of_ends hx ha hends).ne harmed, fun hidle => ?_⟩
  have hlapsed : x.lapsed E op = x.machine := lapsed_eq ha fun h => hidle (.inr h)
  cases hr : x.reads? op with
  | some key =>
    have mode : x.machine.state.mode ≠ .command := fun hm =>
      hidle (.inl (.inr ⟨key, hr, by rw [hlapsed]; exact hm⟩))
    rw [apply_reads hr, hlapsed, Machine.read_timer E mode]
    exact ha
  | none =>
    have hset : ∀ mode, op ≠ .setMode mode := fun mode he => hidle (.inl (.inl ⟨mode, he⟩))
    cases hop : op.isPerform with
    | true =>
      cases op with
      | perform action => simpa [apply] using ha
      | _ => cases hop
    | false => rw [(apply_silent (E := E) hr hop).2 hset, hlapsed, ha]

/-- However a session was driven from a start with nothing open, actions performed behind the keys
included: an expiry fires just for the generation that is armed, leaves nothing open then, and
changes nothing at all otherwise, be its generation an old one or one not given out yet. Generations
grow by one with an operation at most. Along the run an expiry of each generation fires at most
once; and it never fires after the key has been completed, dropped, replaced, cancelled or has
expired, which are the only ways in which it stops being armed. -/
theorem expiries_of_run (E : Editor σ) (x : Moment σ) (hx : x.machine.Idle)
    (ops : List Operation) (hops : ∀ op ∈ ops, op.isWrite = false) :
    let m := (x.run E ops).machine
    (∀ generation,
      ((m.expire E generation).1 = true ↔
        ∃ a, m.timer.armed = some a ∧ a.generation = generation) ∧
      ((m.expire E generation).1 = false → (m.expire E generation).2 = m) ∧
      ((m.expire E generation).1 = true → (m.expire E generation).2.Idle)) ∧
    m.timer.generation ≤ x.machine.timer.generation + ops.length ∧
    (∀ generation, firings E generation ops x ≤ 1) ∧
    ∀ before op later, ops = before ++ op :: later →
      let y := x.run E before
      ∀ a, y.machine.timer.armed = some a →
        ((y.apply E op).machine.timer.armed = some a ↔ ¬ y.Ends E op a) ∧
        (y.Ends E op a → firings E a.generation later (y.apply E op) = 0) := by
  intro m
  have hm : Coherent (x.run E ops).time m := .run hx hops
  have hstart : Coherent x.time x.machine := .of_idle hx
  refine ⟨fun generation => ⟨hm.expire_fires_iff E generation, fun hstale => ?_, fun hfired => ?_⟩,
    run_generation_le hstart ops hops, fun generation => firings_le_one hstart generation ops hops,
    fun before op later hsplit => ?_⟩
  · rcases hm.expire_cases E generation with ⟨a, -, -, he⟩ | ⟨-, he⟩
    · rw [he] at hstale
      cases hstale
    · rw [he]
  · rcases hm.expire_cases E generation with ⟨a, -, -, he⟩ | ⟨-, he⟩
    · rw [he]
      exact ⟨by simp, by simp⟩
    · rw [he] at hfired
      cases hfired
  · intro y a ha
    have hy : Coherent y.time y.machine := .run hx fun o ho => hops o (by simp [hsplit, ho])
    exact ⟨armed_apply_iff hy ha, fun hends => firings_of_passed (passed_of_ends hy ha hends) later⟩

/-- The overdue deletion key expires when the next key is typed, so the host's own expiry of it
comes too late; the expiry of the new key fires the first time. -/
theorem expiries_of_run_late :
    let E : Editor Unit := Device.absent
    let x : Moment Unit := ⟨0, { editor := (), state := { mode := .command } }⟩
    let later : List Operation := [.expire 1, .expire 2, .expire 3, .expire 2]
    let ops : List Operation := [.dispatch "d", .advance 600] ++ .dispatch "y" :: later
    let y := x.run E [.dispatch "d", .advance 600]
    x.machine.Idle ∧ (∀ op ∈ ops, op.isWrite = false) ∧
      y.machine.timer.armed = some ⟨1, "d", 500⟩ ∧ y.Ends E (.dispatch "y") ⟨1, "d", 500⟩ ∧
      firings E 1 later (y.apply E (.dispatch "y")) = 0 ∧ firings E 2 ops x = 1 := by
  intro E x later ops y
  have hx : x.machine.Idle := ⟨rfl, rfl⟩
  have hops : ∀ op ∈ ops, op.isWrite = false := by decide
  have harmed : y.machine.timer.armed = some ⟨1, "d", 500⟩ := by decide
  have hends : y.Ends E (.dispatch "y") ⟨1, "d", 500⟩ :=
    .inr (.inr ⟨by decide, .inr (by decide)⟩)
  obtain ⟨-, -, honce, hsettled⟩ := expiries_of_run E x hx ops hops
  have hpassed := (hsettled _ _ later rfl _ harmed).2 hends
  have hfires : 0 < firings E 2 ops x := by decide
  exact ⟨hx, hops, harmed, hends, hpassed, Nat.le_antisymm (honce 2) hfires⟩

end Moment
end ModalKeys
