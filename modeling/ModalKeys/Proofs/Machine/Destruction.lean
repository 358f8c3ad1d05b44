import ModalKeys.Proofs.Machine.Generation
import ModalKeys.Proofs.Machine.Log

/-! Which calls can take text away, and what must have happened before they are made. A host may
write to the state whenever it likes; a key still expires with a deletion only if it was typed as
a command and nothing has been typed as a command since. -/
namespace ModalKeys

variable {σ : Type}

/-- The calls that take text out of the document. -/
def EditorCall.isDestructive : EditorCall → Bool
  | deleteAtCursor | deleteLine | deleteSelection => true
  | _ => false

/-! ## One reading and one expiry -/

theorem Action.can_destructive {a : Action} {call : EditorCall} (hcan : a.Can call)
    (hcall : call.isDestructive) :
    a = .deleteAtCursor ∧ call = .deleteAtCursor ∨ a = .deleteLine ∧ call = .deleteLine ∨
      a = .deleteSelection ∧ call = .deleteSelection := by
  cases call with
  | deleteAtCursor =>
    have ha : a = .deleteAtCursor := by cases a <;> simp_all [Can, steps, Step.Makes]
    exact .inl ⟨ha, rfl⟩
  | deleteLine =>
    have ha : a = .deleteLine := by cases a <;> simp_all [Can, steps, Step.Makes]
    exact .inr (.inl ⟨ha, rfl⟩)
  | deleteSelection =>
    have ha : a = .deleteSelection := by cases a <;> simp_all [Can, steps, Step.Makes]
    exact .inr (.inr ⟨ha, rfl⟩)
  | _ => cases hcall

theorem Grammar.resolve?_destructive {first key : String} {a : Action} {call : EditorCall}
    (ha : resolve? first key = some a) (hcan : a.Can call) (hcall : call.isDestructive) :
    call = .deleteLine ∧ first = "d" ∧ key = "d" := by
  have hcases := Action.can_destructive hcan hcall
  unfold resolve? at ha
  split at ha <;> cases ha <;> simp_all

theorem Grammar.single?_harmless {key : String} {a : Action} {call : EditorCall}
    (ha : single? key = some a) (hcan : a.Can call) : ¬ call.isDestructive := by
  intro hcall
  have hcases := Action.can_destructive hcan hcall
  unfold single? at ha
  split at ha <;> cases ha <;> simp_all

theorem Machine.visualAction?_destructive {key : String} {a : Action} {call : EditorCall}
    (ha : visualAction? key = some a) (hcan : a.Can call) (hcall : call.isDestructive) :
    call = .deleteSelection ∧ a = .deleteSelection ∧ key = "d" := by
  have hcases := Action.can_destructive hcan hcall
  unfold visualAction? Grammar.visual? at ha
  split at ha
  · cases ha
    simp at hcases
  · split at ha <;> cases ha <;> simp_all

namespace Machine

variable (E : Editor σ) (m : Machine (σ × List Answered)) (now : Nat) (key : String)

/-- A key takes a line away as the second of two in command mode, and the selection in visual mode
once its text could be had. -/
theorem read_destructive :
    ∃ calls, m.Calls (m.read E.logged now key).2 calls ∧ ∀ c ∈ calls, c.1.isDestructive →
      key = "d" ∧
      (c.1 = .deleteLine ∧ m.state.mode = .command ∧ m.state.pending = "d" ∨
        c.1 = .deleteSelection ∧ m.state.mode = .visual ∧
          ∃ text answer, calls = [(.selectedText, .ok text), (.deleteSelection, answer)]) := by
  obtain ⟨d, m', hr, h⟩ := m.read_reads E.logged now key
  rw [hr]
  cases h with
  | off => exact ⟨[], .refl m, by simp⟩
  | colon => exact ⟨[], .of_editor_eq rfl, by simp⟩
  | second mode =>
    obtain ⟨calls, hcalls, hcan⟩ :=
      carryOut_calls E (m.close key) (Grammar.resolve? m.state.pending key)
    refine ⟨calls, hcalls, fun c hc hcall => ?_⟩
    obtain ⟨a, ha, hac⟩ := hcan c hc
    obtain ⟨hline, hfirst, hkey⟩ := Grammar.resolve?_destructive ha hac hcall
    exact ⟨hkey, .inl ⟨hline, mode, hfirst⟩⟩
  | opens => exact ⟨[], .of_editor_eq rfl, by simp⟩
  | single =>
    obtain ⟨calls, hcalls, hcan⟩ := carryOut_calls E (m.close key) (Grammar.single? key)
    refine ⟨calls, hcalls, fun c hc hcall => ?_⟩
    obtain ⟨a, ha, hac⟩ := hcan c hc
    exact absurd hcall (Grammar.single?_harmless ha hac)
  | escape =>
    obtain ⟨calls, hcalls, hcan⟩ := perform_calls E m .exitInsert
    refine ⟨calls, hcalls, fun c hc hcall => ?_⟩
    have hcases := Action.can_destructive (hcan c hc) hcall
    simp at hcases
  | typed => exact ⟨[], .refl m, by simp⟩
  | visual mode =>
    by_cases hdelete : visualAction? key = some .deleteSelection
    · have hcan : Action.deleteSelection.Can .deleteSelection :=
        ⟨.call .deleteSelection, by simp [Action.steps], rfl⟩
      have hkey : key = "d" := (visualAction?_destructive hdelete hcan rfl).2.2
      rw [hdelete]
      rcases perform_deleteSelection E m with ⟨text, answer, hcalls⟩ | ⟨e, hcalls⟩
      · refine ⟨_, hcalls, fun c hc hcall => ⟨hkey, .inr ⟨?_, mode, text, answer, rfl⟩⟩⟩
        simp only [List.mem_cons, List.not_mem_nil, or_false] at hc
        rcases hc with rfl | rfl
        · cases hcall
        · rfl
      · refine ⟨_, hcalls, fun c hc hcall => ?_⟩
        rw [List.mem_singleton] at hc
        rw [hc] at hcall
        cases hcall
    · obtain ⟨calls, hcalls, hcan⟩ := carryOut_calls E m (visualAction? key)
      refine ⟨calls, hcalls, fun c hc hcall => ?_⟩
      obtain ⟨a, ha, hac⟩ := hcan c hc
      obtain ⟨-, rfl, -⟩ := visualAction?_destructive ha hac hcall
      exact absurd ha hdelete

theorem expire_destructive (generation : Nat) :
    ∃ calls, m.Calls (m.expire E.logged generation).2 calls ∧ ∀ c ∈ calls, c.1.isDestructive →
      c.1 = .deleteAtCursor ∧ ∃ a, m.timer.armed = some a ∧ a.generation = generation ∧
        a.key = "d" ∧ m.state.pending = "d" ∧ m.state.mode = .command := by
  obtain ⟨calls, hcalls, harmed⟩ := expire_calls E m generation
  refine ⟨calls, hcalls, fun c hc hcall => ?_⟩
  obtain ⟨a, ha, hgen, hslot, mode, hfall⟩ := harmed (List.ne_nil_of_mem hc)
  unfold FallbackCalls at hfall
  split at hfall
  · rename_i hkey
    obtain ⟨answer, rfl⟩ := hfall
    rw [List.mem_singleton] at hc
    exact ⟨by rw [hc], a, ha, hgen, hkey, hslot.trans hkey, mode⟩
  · rcases hfall with ⟨text, answer, rfl⟩ | ⟨e, rfl⟩
    · simp only [List.mem_cons, List.not_mem_nil, or_false] at hc
      rcases hc with rfl | rfl <;> cases hcall
    · rw [List.mem_singleton] at hc
      rw [hc] at hcall
      cases hcall
  · rw [hfall] at hc
    cases hc

theorem expireDue_destructive :
    ∃ calls, m.Calls (m.expireDue E.logged now).2 calls ∧ ∀ c ∈ calls, c.1.isDestructive →
      c.1 = .deleteAtCursor ∧ ∃ a, m.timer.armed = some a ∧ a.deadline ≤ now ∧
        a.key = "d" ∧ m.state.pending = "d" ∧ m.state.mode = .command := by
  rcases m.expireDue_cases E.logged now with ⟨-, he⟩ | ⟨a, ha, hd, he⟩
  · rw [he]
    exact ⟨[], .refl m, by simp⟩
  · rw [he]
    obtain ⟨calls, hcalls, hdestroys⟩ := expire_destructive E m a.generation
    refine ⟨calls, hcalls, fun c hc hcall => ?_⟩
    obtain ⟨hcursor, b, hb, -, hrest⟩ := hdestroys c hc hcall
    obtain rfl : a = b := by
      rw [ha, Option.some.injEq] at hb
      exact hb
    exact ⟨hcursor, a, ha, hd, hrest⟩

end Machine

/-! ## Operations -/

namespace Moment

/-- The key that an operation hands to the grammar of the mode. -/
def reads? (x : Moment σ) : Operation → Option String
  | .dispatch key => some key
  | .dispatchInput input => if x.machine.LeavesAlone input then none else some input.key
  | _ => none

/-- The operation gives a key the occasion to expire. -/
def LetsExpire (x : Moment σ) (op : Operation) (a : Armed) : Prop :=
  op = .expire a.generation ∨ a.deadline ≤ x.time ∧ (op = .expireDue ∨ x.reads? op ≠ none)

/-- The machine once the expiry is over that an operation is or begins with. -/
def lapsed (E : Editor σ) (x : Moment σ) (op : Operation) : Machine σ :=
  match op with
  | .expire generation => (x.machine.expire E generation).2
  | .expireDue => (x.machine.expireDue E x.time).2
  | op => if (x.reads? op).isSome then (x.machine.expireDue E x.time).2 else x.machine

/-- The operation reads this key in this mode. -/
def ReadsIn (E : Editor σ) (x : Moment σ) (op : Operation) (mode : Mode) (key : String) : Prop :=
  x.reads? op = some key ∧ (x.lapsed E op).state.mode = mode

/-- The operation sets a mode or reads a key as a command. -/
def Commands (E : Editor σ) (x : Moment σ) (op : Operation) : Prop :=
  (∃ mode, op = .setMode mode) ∨ ∃ key, x.ReadsIn E op .command key

variable {E : Editor σ} {x : Moment σ} {op : Operation} {key : String} {a : Armed}

theorem apply_reads (h : x.reads? op = some key) :
    (x.apply E op).machine = ((x.lapsed E op).read E x.time key).2 := by
  cases op with
  | dispatch k =>
    cases h
    rfl
  | dispatchInput input =>
    by_cases hl : x.machine.LeavesAlone input
    · simp [reads?, hl] at h
    · have hkey : input.key = key := by simpa [reads?, hl] using h
      simp [apply, lapsed, reads?, hl, Machine.dispatchInput_eq_dispatch, Machine.dispatch_eq_read,
        hkey]
  | _ => cases h

theorem apply_silent (h : x.reads? op = none) (hop : op.isPerform = false) :
    (x.apply E op).machine.editor = (x.lapsed E op).editor ∧
      ((∀ mode, op ≠ .setMode mode) → (x.apply E op).machine.timer = (x.lapsed E op).timer) := by
  cases op with
  | dispatch k => cases h
  | dispatchInput input =>
    by_cases hl : x.machine.LeavesAlone input
    · simp [apply, lapsed, reads?, hl, Machine.dispatchInput_alone]
    · simp [reads?, hl] at h
  | setMode mode => exact ⟨rfl, fun hne => absurd rfl (hne mode)⟩
  | perform action => cases hop
  | expire generation => exact ⟨rfl, fun _ => rfl⟩
  | expireDue => exact ⟨rfl, fun _ => rfl⟩
  | advance span => exact ⟨rfl, fun _ => rfl⟩
  | write w => exact ⟨rfl, fun _ => rfl⟩

/-! ## What the past has to be -/

/-- The key was read in the past, in command mode on an empty slot, and armed; since then no mode
was set and no key read as a command. -/
inductive Held (E : Editor σ) (x : Moment σ) (a : Armed) : List Operation → Prop where
  | opened {past : List Operation} {op : Operation}
      (key : (x.run E past).ReadsIn E op .command a.key)
      (slot : ((x.run E past).lapsed E op).state.pending = "")
      (armed : ((x.run E past).apply E op).machine.timer.armed = some a) :
      Held E x a (past ++ [op])
  | kept {past : List Operation} {op : Operation} (held : Held E x a past)
      (idle : ¬ (x.run E past).Commands E op) : Held E x a (past ++ [op])

theorem armed_of_lapsed (h : (x.lapsed E op).timer.armed = some a) :
    x.machine.timer.armed = some a := by
  unfold lapsed at h
  split at h
  · exact Machine.armed_of_expire h
  · exact Machine.armed_of_expireDue h
  · split at h
    · exact Machine.armed_of_expireDue h
    · exact h

/-- A key is armed after an operation that has just read it, or it was armed before and the
operation is no command. -/
theorem armed_of_apply (hop : op.isPerform = false)
    (h : (x.apply E op).machine.timer.armed = some a) :
    x.ReadsIn E op .command a.key ∧ (x.lapsed E op).state.pending = "" ∨
      ¬ x.Commands E op ∧ x.machine.timer.armed = some a := by
  cases hr : x.reads? op with
  | some key =>
    rw [apply_reads hr] at h
    rcases Machine.armed_of_read h with hopens | ⟨mode, hbefore⟩
    · exact .inl ⟨⟨hopens.key_eq ▸ hr, hopens.mode⟩, hopens.slot⟩
    · refine .inr ⟨?_, armed_of_lapsed hbefore⟩
      rintro (⟨mode', rfl⟩ | ⟨k, -, hcommand⟩)
      · cases hr
      · exact mode hcommand
  | none =>
    by_cases hset : ∃ mode, op = .setMode mode
    · obtain ⟨mode, rfl⟩ := hset
      rw [apply, Machine.setMode_unarmed] at h
      cases h
    · have hne : ∀ mode, op ≠ .setMode mode := fun mode he => hset ⟨mode, he⟩
      rw [(apply_silent (E := E) hr hop).2 hne] at h
      refine .inr ⟨?_, armed_of_lapsed h⟩
      rintro (hmode | ⟨k, hk, -⟩)
      · exact hset hmode
      · simp [hr] at hk

theorem held_append {past : List Operation} (later : List Operation)
    (hlater : ∀ o ∈ later, o.isPerform = false)
    (hpast : ∀ a, (x.run E past).machine.timer.armed = some a → Held E x a past)
    (h : (x.run E (past ++ later)).machine.timer.armed = some a) :
    Held E x a (past ++ later) := by
  -- the operations still to come are moved to the past one by one, and each leaves only held keys
  induction later generalizing past with
  | nil =>
    rw [List.append_nil] at h ⊢
    exact hpast a h
  | cons op later ih =>
    rw [List.append_cons] at h ⊢
    refine ih (fun o ho => hlater o (by simp [ho])) (fun b hb => ?_) h
    rw [run_append, run_singleton] at hb
    rcases armed_of_apply (hlater op (by simp)) hb with ⟨hkey, hslot⟩ | ⟨hidle, hbefore⟩
    · exact .opened hkey hslot hb
    · exact .kept (hpast b hbefore) hidle

theorem held_of_armed (hx : x.machine.timer.armed = none) {past : List Operation}
    (hpast : ∀ o ∈ past, o.isPerform = false)
    (h : (x.run E past).machine.timer.armed = some a) : Held E x a past := by
  have hnone : ∀ a, (x.run E []).machine.timer.armed = some a → Held E x a [] := by simp [hx]
  exact held_append past hpast hnone h

/-! ## The calls of one operation -/

theorem lapsed_destructive (E : Editor σ) (y : Moment (σ × List Answered)) (op : Operation) :
    ∃ late, y.machine.Calls (y.lapsed E.logged op) late ∧ ∀ c ∈ late, c.1.isDestructive →
      c.1 = .deleteAtCursor ∧ ∃ a, y.machine.timer.armed = some a ∧ y.LetsExpire op a ∧
        a.key = "d" ∧ y.machine.state.pending = "d" ∧ y.machine.state.mode = .command := by
  have hdue (hop : op = .expireDue ∨ y.reads? op ≠ none) :
      ∃ late, y.machine.Calls (y.machine.expireDue E.logged y.time).2 late ∧
        ∀ c ∈ late, c.1.isDestructive → c.1 = .deleteAtCursor ∧
          ∃ a, y.machine.timer.armed = some a ∧ y.LetsExpire op a ∧
            a.key = "d" ∧ y.machine.state.pending = "d" ∧ y.machine.state.mode = .command := by
    obtain ⟨late, hlate, hdestroys⟩ := y.machine.expireDue_destructive E y.time
    refine ⟨late, hlate, fun c hc hcall => ?_⟩
    obtain ⟨hcursor, a, ha, hd, hrest⟩ := hdestroys c hc hcall
    exact ⟨hcursor, a, ha, .inr ⟨hd, hop⟩, hrest⟩
  unfold lapsed
  split
  · rename_i generation
    obtain ⟨late, hlate, hdestroys⟩ := y.machine.expire_destructive E generation
    refine ⟨late, hlate, fun c hc hcall => ?_⟩
    obtain ⟨hcursor, a, ha, hgen, hrest⟩ := hdestroys c hc hcall
    exact ⟨hcursor, a, ha, .inl (by rw [hgen]), hrest⟩
  · exact hdue (.inl rfl)
  · split
    · rename_i hreads
      exact hdue (.inr (Option.isSome_iff_ne_none.mp hreads))
    · exact ⟨[], .refl _, by simp⟩

theorem apply_destructive (E : Editor σ) (y : Moment (σ × List Answered))
    (hop : op.isPerform = false) :
    ∃ done, (y.lapsed E.logged op).Calls (y.apply E.logged op).machine done ∧
      ∀ c ∈ done, c.1.isDestructive →
        c.1 = .deleteLine ∧ y.ReadsIn E.logged op .command "d" ∧
            (y.lapsed E.logged op).state.pending = "d" ∨
          c.1 = .deleteSelection ∧ y.ReadsIn E.logged op .visual "d" ∧
            ∃ text answer, done = [(.selectedText, .ok text), (.deleteSelection, answer)] := by
  cases hr : y.reads? op with
  | none => exact ⟨[], .of_editor_eq (apply_silent hr hop).1, by simp⟩
  | some key =>
    rw [apply_reads hr]
    obtain ⟨done, hdone, hdestroys⟩ := (y.lapsed E.logged op).read_destructive E y.time key
    refine ⟨done, hdone, fun c hc hcall => ?_⟩
    obtain ⟨rfl, ⟨hline, mode, hslot⟩ | ⟨hselection, mode, htext⟩⟩ := hdestroys c hc hcall
    · exact .inl ⟨hline, ⟨hr, mode⟩, hslot⟩
    · exact .inr ⟨hselection, ⟨hr, mode⟩, htext⟩

/-- Whatever keys, expiries, mode changes and writes to the state came before, and whatever the
editor answered: an operation deletes at the cursor only where it lets an armed deletion key expire
that still stands in the slot of command mode, and that was typed there on an empty slot with no
command since. It deletes a line only for a deletion key that is typed on top of another, and the
selection only for one that is typed in visual mode, when the text has just been had. -/
theorem destructive_calls (E : Editor σ) (x : Moment (σ × List Answered))
    (hx : x.machine.timer.armed = none) (past : List Operation)
    (hpast : ∀ o ∈ past, o.isPerform = false) (op : Operation) (hop : op.isPerform = false) :
    let y := x.run E.logged past
    ∃ late done, y.machine.Calls (y.lapsed E.logged op) late ∧
      (y.lapsed E.logged op).Calls (y.apply E.logged op).machine done ∧
      (∀ c ∈ late, c.1.isDestructive → c.1 = .deleteAtCursor ∧
        ∃ a, Held E.logged x a past ∧ y.machine.timer.armed = some a ∧ y.LetsExpire op a ∧
          a.key = "d" ∧ y.machine.state.pending = "d" ∧ y.machine.state.mode = .command) ∧
      ∀ c ∈ done, c.1.isDestructive →
        c.1 = .deleteLine ∧ y.ReadsIn E.logged op .command "d" ∧
            (y.lapsed E.logged op).state.pending = "d" ∨
          c.1 = .deleteSelection ∧ y.ReadsIn E.logged op .visual "d" ∧
            ∃ text answer, done = [(.selectedText, .ok text), (.deleteSelection, answer)] := by
  intro y
  obtain ⟨late, hlate, hdelete⟩ := lapsed_destructive E y op
  obtain ⟨done, hdone, hdestroys⟩ := apply_destructive E y hop
  refine ⟨late, done, hlate, hdone, fun c hc hcall => ?_, hdestroys⟩
  obtain ⟨hcursor, a, ha, hrest⟩ := hdelete c hc hcall
  exact ⟨hcursor, a, held_of_armed hx hpast ha, ha, hrest⟩

/-- A host that goes to insert mode and back behind the machine's back does not hold the deletion
up: the key typed in between was no command. -/
theorem destructive_calls_behind :
    let E : Editor Unit := Device.silent
    let x : Moment (Unit × List Answered) :=
      ⟨0, { editor := ((), []), state := { mode := .command } }⟩
    let past : List Operation := [.dispatch "d", .write (.mode .insert), .dispatch "d",
      .write (.mode .command), .advance 600]
    x.machine.timer.armed = none ∧ (∀ o ∈ past, o.isPerform = false) ∧
      (∃ a, Held E.logged x a past ∧ a.key = "d") ∧
      ((x.run E.logged past).apply E.logged (.dispatch "d")).machine.editor.2.map Prod.fst =
        [.deleteAtCursor] := by
  intro E x past
  have hx : x.machine.timer.armed = none := rfl
  have hpast : ∀ o ∈ past, o.isPerform = false := by decide
  obtain ⟨late, done, hlate, -, hdelete, -⟩ :=
    destructive_calls E x hx past hpast (.dispatch "d") rfl
  obtain ⟨c, hc, hcall⟩ := hlate.mem_of_log .deleteAtCursor (by decide) (by decide)
  have hcursor : c.1.isDestructive := by rw [hcall]; rfl
  obtain ⟨-, a, hheld, -, -, hkey, -⟩ := hdelete c hc hcursor
  exact ⟨hx, hpast, ⟨a, hheld, hkey⟩, by decide⟩

end Moment
end ModalKeys
