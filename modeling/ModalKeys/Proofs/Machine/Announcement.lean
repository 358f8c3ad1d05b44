import ModalKeys.Proofs.Machine.Operation

/-! How keys change the mode and what subscribers hear of it. The mode goes along a few edges, and
each passage is announced once; expiries leave the mode alone. So whoever listens knows the
mode. -/
namespace ModalKeys

variable {σ : Type}

/-- The mode that was announced last. A session that has announced none is off. -/
def State.latest (s : State) : Mode := s.announced.headD .off

/-- The edges along which a key changes the mode, by what stands in the slot and the key. -/
inductive Shift : String → String → Mode → Mode → Prop where
  | insert : Shift "" "i" .command .insert
  | visual : Shift "" "v" .command .visual
  | quit : Shift ":" "q" .command .off
  | leaveInsert {slot key : String} (escape : isEscape key) : Shift slot key .insert .command
  | leaveVisual {slot key : String} (leaves : isEscape key ∨ key ∈ ["y", "d", "p"]) :
      Shift slot key .visual .command

namespace Shift

variable {slot key : String} {mode mode' : Mode}

theorem ne (h : Shift slot key mode mode') : mode' ≠ mode := by
  cases h <;> simp

theorem not_off : ¬ Shift slot key .off mode := by
  intro h
  cases h

end Shift

/-! ## Actions -/

/-- In this mode the action sets no other mode or goes along one edge. -/
def Action.Follows (a : Action) (slot key : String) (mode : Mode) : Prop :=
  a.modes = [] ∨ ∃ target, a.modes = [target] ∧ Shift slot key mode target

theorem Grammar.resolve?_modes {first key : String} {a : Action}
    (h : resolve? first key = some a) :
    a.modes = [] ∨ a.modes = [.off] ∧ first = ":" ∧ key = "q" := by
  unfold resolve? at h
  split at h <;> cases h <;> simp [Action.modes, Action.steps, Step.mode?]

theorem Grammar.single?_modes {key : String} {a : Action} (h : single? key = some a) :
    a.modes = [] ∨ a.modes = [.insert] ∧ key = "i" ∨ a.modes = [.visual] ∧ key = "v" := by
  unfold single? at h
  split at h <;> cases h <;> simp [Action.modes, Action.steps, Step.mode?]

theorem Grammar.visual?_modes {key : String} {a : Action} (h : visual? key = some a) :
    a.modes = [] ∨ a.modes = [.command] ∧ key ∈ ["y", "d", "p"] := by
  unfold visual? at h
  split at h <;> cases h <;> simp [Action.modes, Action.steps, Step.mode?, List.filterMap_cons]

theorem Grammar.resolve?_follows {slot key : String} {a : Action}
    (h : resolve? slot key = some a) : a.Follows slot key .command := by
  rcases resolve?_modes h with hnone | ⟨hmodes, rfl, rfl⟩
  · exact .inl hnone
  · exact .inr ⟨.off, hmodes, .quit⟩

theorem Grammar.single?_follows {key : String} {a : Action} (h : single? key = some a) :
    a.Follows "" key .command := by
  rcases single?_modes h with hnone | ⟨hmodes, rfl⟩ | ⟨hmodes, rfl⟩
  · exact .inl hnone
  · exact .inr ⟨.insert, hmodes, .insert⟩
  · exact .inr ⟨.visual, hmodes, .visual⟩

theorem Machine.visualAction?_follows {slot key : String} {a : Action}
    (h : visualAction? key = some a) : a.Follows slot key .visual := by
  unfold visualAction? at h
  split at h
  · rename_i hescape
    cases h
    exact .inr ⟨.command, rfl, .leaveVisual (.inl hescape)⟩
  · rcases Grammar.visual?_modes h with hnone | ⟨hmodes, hkey⟩
    · exact .inl hnone
    · exact .inr ⟨.command, hmodes, .leaveVisual (.inr hkey)⟩

/-! ## Keys -/

/-- Between the two states the mode went along an edge, which was announced, or nothing was set. -/
def State.Shifts (slot key : String) (s s' : State) : Prop :=
  s.Announces s' [] ∨ ∃ mode, Shift slot key s.mode mode ∧ s.Announces s' [mode]

theorem State.Announces.shifts {s s' s'' : State} {slot key : String} (h : s.Announces s' [])
    (hshifts : s'.Shifts slot key s'') : s.Shifts slot key s'' := by
  rcases hshifts with hsame | ⟨mode, hshift, hmode⟩
  · exact .inl (h.trans hsame)
  · have hbefore : s'.mode = s.mode := h.mode
    exact .inr ⟨mode, hbefore ▸ hshift, h.trans hmode⟩

namespace Machine

variable (E : Editor σ) (m : Machine σ) (now : Nat) (slot key : String)

theorem perform_shifts {a : Action} (h : a.Follows slot key m.state.mode) :
    m.state.Shifts slot key (m.perform E a).state := by
  obtain ⟨modes, hle, hannounces⟩ := m.perform_announces E a
  rcases h with hnone | ⟨target, hmodes, hshift⟩
  · rw [hnone, List.prefix_nil] at hle
    exact .inl (hle ▸ hannounces)
  · rw [hmodes, List.prefix_cons_iff] at hle
    rcases hle with rfl | ⟨rest, rfl, hrest⟩
    · exact .inl hannounces
    · rw [List.prefix_nil.mp hrest] at hannounces
      exact .inr ⟨target, hshift, hannounces⟩

theorem carryOut_shifts {action? : Option Action}
    (h : ∀ a, action? = some a → a.Follows slot key m.state.mode) :
    m.state.Shifts slot key (m.carryOut E action?).state := by
  cases action? with
  | none => exact .inl (.refl m.state)
  | some a => exact perform_shifts E m slot key (h a rfl)

theorem read_shifts : m.state.Shifts m.state.pending key (m.read E now key).2.state := by
  have hclosed : m.state.Announces (m.close key).state [] := .of_eq rfl rfl
  obtain ⟨d, m', hr, h⟩ := m.read_reads E now key
  rw [hr]
  cases h with
  | off => exact .inl (.refl m.state)
  | colon => exact .inl (.of_eq rfl rfl)
  | second mode =>
    refine hclosed.shifts (carryOut_shifts E (m.close key) m.state.pending key fun a ha => ?_)
    exact mode ▸ Grammar.resolve?_follows ha
  | opens => exact .inl (.of_eq rfl rfl)
  | single mode colon empty =>
    rw [empty]
    refine hclosed.shifts (carryOut_shifts E (m.close key) "" key fun a ha => ?_)
    exact mode ▸ Grammar.single?_follows ha
  | escape mode escape =>
    refine perform_shifts E m _ key (.inr ⟨.command, rfl, ?_⟩)
    exact mode ▸ .leaveInsert escape
  | typed => exact .inl (.refl m.state)
  | visual mode =>
    refine carryOut_shifts E m _ key fun a ha => ?_
    exact mode ▸ visualAction?_follows ha

theorem expire_announces (generation : Nat) :
    m.state.Announces (m.expire E generation).2.state [] := by
  obtain ⟨hmode, hannounced, -⟩ := expire_mode E m generation
  exact .of_eq hmode hannounced

theorem expireDue_announces : m.state.Announces (m.expireDue E now).2.state [] := by
  obtain ⟨hmode, hannounced, -⟩ := expireDue_mode E m now
  exact .of_eq hmode hannounced

theorem dispatch_shifts : m.state.Shifts (m.expireDue E now).2.state.pending key
    (m.dispatch E now key).2.state := by
  rw [dispatch_eq_read]
  exact (expireDue_announces E m now).shifts (read_shifts E _ now key)

theorem dispatchInput_shifts (input : KeyInput) :
    m.state.Shifts (m.expireDue E now).2.state.pending input.key
      (m.dispatchInput E now input).2.state := by
  by_cases hl : m.LeavesAlone input
  · rw [dispatchInput_alone E now hl]
    exact .inl (.refl m.state)
  · rw [dispatchInput_eq_dispatch E now hl]
    exact dispatch_shifts E m now input.key

/-- An expiry ahead of a key leaves the slot as it is or empties it. -/
theorem expireDue_pending : (m.expireDue E now).2.state.pending = m.state.pending ∨
    (m.expireDue E now).2.state.pending = "" := by
  rcases m.expireDue_cases E now with ⟨-, he⟩ | ⟨a, -, -, he⟩
  · exact .inl (by rw [he])
  · obtain ⟨fired, m', he', h⟩ := m.expire_expires E a.generation
    rw [he, he']
    cases h with
    | stale => exact .inl rfl
    | foreign => exact .inl rfl
    | fired => exact .inr (by simp)

end Machine

/-! ## Subscribers -/

/-- The last announcement is the mode. -/
def State.UpToDate (s : State) : Prop := s.latest = s.mode

theorem Machine.ofConfig_upToDate (editor : σ) (config : Config) :
    (ofConfig editor config).state.UpToDate := by
  show (if config.startMode = .off then ({} : State)
    else ({} : State).setMode config.startMode).UpToDate
  split <;> rfl

theorem State.Announces.upToDate {s s' : State} {modes : List Mode} (h : s.Announces s' modes)
    (hs : s.UpToDate) : s'.UpToDate := by
  unfold UpToDate latest at hs ⊢
  rw [h.announced, h.mode]
  cases hlast : modes.getLast? with
  | none =>
    obtain rfl := List.getLast?_eq_none_iff.mp hlast
    exact hs
  | some mode =>
    obtain ⟨before, rfl⟩ := List.getLast?_eq_some_iff.mp hlast
    simp

theorem State.Shifts.upToDate {s s' : State} {slot key : String} (h : s.Shifts slot key s')
    (hs : s.UpToDate) : s'.UpToDate := by
  rcases h with hsame | ⟨mode, -, hmode⟩
  · exact hsame.upToDate hs
  · exact hmode.upToDate hs

namespace Machine

theorem kept_upToDate (E : Editor σ) (now : Nat) : Kept E now (fun m => m.state.UpToDate) where
  expire m generation h := (expire_announces E m generation).upToDate h
  read m key h := (read_shifts E m now key).upToDate h
  setMode _ _ _ := rfl

end Machine

theorem Moment.run_upToDate (E : Editor σ) (x : Moment σ) (ops : List Operation)
    (hx : x.machine.state.UpToDate) : (x.run E ops).machine.state.UpToDate := by
  refine x.run_keeps (P := fun y => y.machine.state.UpToDate) E (fun op _ y hy => ?_) hx
  refine y.apply_keeps (Machine.kept_upToDate E y.time) (fun m action _ h => ?_)
    (fun m w _ h => ?_) hy
  · obtain ⟨modes, -, hannounces⟩ := m.perform_announces E action
    exact hannounces.upToDate h
  · cases w with
    | mode mode => rfl
    | modeNamed name =>
      simp only [State.write, State.setModeNamed]
      cases Mode.parse name with
      | ok mode => rfl
      | error e => exact h
    | _ => exact h

/-- A subscriber finds the last announcement among those not seen yet. -/
theorem State.UpToDate.newsSince {s : State} (h : s.UpToDate) (seen : Nat) :
    s.newsSince seen = (s.announced.take (s.announced.length - seen)).head? := by
  unfold State.newsSince
  rw [← h, latest]
  cases hs : s.announced with
  | nil => simp
  | cons mode modes =>
    by_cases hseen : seen < modes.length + 1
    · have hsome : modes.length + 1 - seen = modes.length - seen + 1 := by omega
      simp [hseen, hsome]
    · have hnone : modes.length + 1 - seen = 0 := by omega
      simp [hseen, hnone]

/-- A key that changes the mode goes along an edge, and the new mode is announced once; one that
leaves the mode announces nothing. No edge leads out of `off`. -/
structure State.ChangesAlong (slot key : String) (s s' : State) : Prop where
  shift : s'.mode ≠ s.mode → Shift slot key s.mode s'.mode
  announced : s'.announced = if s'.mode = s.mode then s.announced else s'.mode :: s.announced
  stays_off : s.mode = .off → s'.mode = .off

theorem State.Shifts.changesAlong {s s' : State} {slot key : String}
    (h : s.Shifts slot key s') : s.ChangesAlong slot key s' := by
  rcases h with ⟨hannounced, hmode⟩ | ⟨mode, hshift, hannounced, hmode⟩
  · have hsame : s'.mode = s.mode := hmode
    exact ⟨fun hne => absurd hsame hne, by rw [if_pos hsame]; exact hannounced, hsame.trans⟩
  · have htarget : s'.mode = mode := hmode
    constructor
    · intro _
      rw [htarget]
      exact hshift
    · rw [htarget, if_neg hshift.ne]
      exact hannounced
    · intro hoff
      rw [hoff] at hshift
      exact absurd hshift Shift.not_off

/-- After whatever run: a key changes the mode only along the edges, read with the slot as it is
once an overdue key has expired, and announces just that; expiries neither change the mode nor
announce anything, and a mode set from outside is always announced. So if subscribers knew the mode
at the start they know it now: each finds the last announcement among those not seen yet. -/
theorem mode_of_run (E : Editor σ) (x : Moment σ) (ops : List Operation) :
    let y := x.run E ops
    let s := y.machine.state
    let slot := (y.machine.expireDue E y.time).2.state.pending
    (slot = s.pending ∨ slot = "") ∧
      (∀ key, s.ChangesAlong slot key (y.machine.dispatch E y.time key).2.state) ∧
      (∀ input, s.ChangesAlong slot input.key (y.machine.dispatchInput E y.time input).2.state) ∧
      (∀ generation, s.Announces (y.machine.expire E generation).2.state []) ∧
      s.Announces (y.machine.expireDue E y.time).2.state [] ∧
      (∀ mode, s.Announces (y.machine.setMode mode).state [mode]) ∧
      (x.machine.state.UpToDate → s.UpToDate ∧
        ∀ seen, s.newsSince seen = (s.announced.take (s.announced.length - seen)).head?) := by
  intro y s slot
  refine ⟨Machine.expireDue_pending E y.machine y.time, ?_, ?_, ?_, ?_, ?_, ?_⟩
  · intro key
    exact (Machine.dispatch_shifts E y.machine y.time key).changesAlong
  · intro input
    exact (Machine.dispatchInput_shifts E y.machine y.time input).changesAlong
  · intro generation
    exact Machine.expire_announces E y.machine generation
  · exact Machine.expireDue_announces E y.machine y.time
  · intro mode
    exact ⟨rfl, rfl⟩
  · intro hx
    have hs : s.UpToDate := x.run_upToDate E ops hx
    exact ⟨hs, hs.newsSince⟩

/-- A deletion key expires when the next key is typed, which inserts; escape comes back although the
editor refuses to take the focus. A mode set twice is announced twice, and with a colon in the slot
the session is left. -/
theorem mode_of_run_refused :
    let E : Editor Unit := Device.absent
    let x : Moment Unit := ⟨0, .ofConfig () { startMode := .command }⟩
    let ops : List Operation := [.dispatch "d", .advance 500, .dispatch "i", .dispatch "Esc",
      .setMode .command, .dispatch ":"]
    x.machine.state.UpToDate ∧ (x.run E ops).machine.state.UpToDate ∧
      (x.run E ops).machine.state.announced = [.command, .command, .insert, .command] ∧
      (x.run E ops).machine.state.newsSince 3 = some .command ∧
      ((x.run E ops).machine.dispatch E (x.run E ops).time "q").2.state.announced =
        [.off, .command, .command, .insert, .command] ∧
      Shift ((x.run E ops).machine.expireDue E (x.run E ops).time).2.state.pending "q"
        (x.run E ops).machine.state.mode
        ((x.run E ops).machine.dispatch E (x.run E ops).time "q").2.state.mode := by
  intro E x ops
  have hx : x.machine.state.UpToDate := Machine.ofConfig_upToDate () _
  obtain ⟨-, hkeys, -, -, -, -, hnews⟩ := mode_of_run E x ops
  exact ⟨hx, (hnews hx).1, by decide, by decide, by decide, (hkeys "q").shift (by decide)⟩

end ModalKeys
