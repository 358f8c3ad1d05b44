import ModalKeys.Proofs.Machine.Operation

/-! Two sessions side by side. What they need to have in common is written down once: editors that
answer alike, states that are read alike, and timers with the same key armed. Sessions that have
this in common do the same with every action, every expiry and every key, and still have it in
common afterwards. -/
namespace ModalKeys

variable {σ τ : Type}

/-- What two sessions have in common, part by part, together with the reasons why they keep it. -/
structure Simulation (E : Editor σ) (F : Editor τ) where
  editor : σ → τ → Prop
  state : State → State → Prop
  timer : PrefixTimer → PrefixTimer → Prop
  answer_eq : ∀ {s t} (call : EditorCall), editor s t → (E call s).1 = (F call t).1
  call : ∀ {s t} (call : EditorCall), editor s t → editor (E call s).2 (F call t).2
  mode_eq : ∀ {s s'}, state s s' → s.mode = s'.mode
  pending_eq : ∀ {s s'}, state s s' → s.pending = s'.pending
  clipboard_eq : ∀ {s s'}, state s s' → s.clipboard = s'.clipboard
  setMode : ∀ {s s'} (mode : Mode), state s s' → state (s.setMode mode) (s'.setMode mode)
  keep : ∀ {s s'} (text : String), state s s' → state (s.keep text) (s'.keep text)
  pend : ∀ {s s'} (key : String), state s s' →
    state { s with pending := key } { s' with pending := key }
  note : ∀ {s s'} (key : String), state s s' → state { s with last := key } { s' with last := key }
  key_eq : ∀ {t t'}, timer t t' → t.armed.map (·.key) = t'.armed.map (·.key)
  release : ∀ {t t'}, timer t t' → timer t.release t'.release
  cancel : ∀ {t t'}, timer t t' → timer t.cancel t'.cancel

namespace Simulation

variable {E : Editor σ} {F : Editor τ} (S : Simulation E F)

/-- Editors that keep answering alike, and timers with the same key armed, make a simulation in
which the states are the same. -/
def ofEqState (editor : σ → τ → Prop) (timer : PrefixTimer → PrefixTimer → Prop)
    (answer_eq : ∀ {s t} (call : EditorCall), editor s t → (E call s).1 = (F call t).1)
    (call : ∀ {s t} (call : EditorCall), editor s t → editor (E call s).2 (F call t).2)
    (key_eq : ∀ {t t'}, timer t t' → t.armed.map (·.key) = t'.armed.map (·.key))
    (release : ∀ {t t'}, timer t t' → timer t.release t'.release)
    (cancel : ∀ {t t'}, timer t t' → timer t.cancel t'.cancel) : Simulation E F where
  editor := editor
  state := Eq
  timer := timer
  answer_eq := answer_eq
  call := call
  mode_eq h := by rw [h]
  pending_eq h := by rw [h]
  clipboard_eq h := by rw [h]
  setMode mode h := by rw [h]
  keep text h := by rw [h]
  pend key h := by rw [h]
  note key h := by rw [h]
  key_eq := key_eq
  release := release
  cancel := cancel

structure Related (m : Machine σ) (m' : Machine τ) : Prop where
  editor : S.editor m.editor m'.editor
  state : S.state m.state m'.state
  interceptTextFields : m.interceptTextFields = m'.interceptTextFields
  timer : S.timer m.timer m'.timer

/-- The same answer, and machines that are related after it. -/
structure Answers {α : Type} (r : α × Machine σ) (r' : α × Machine τ) : Prop where
  answer : r.1 = r'.1
  machine : S.Related r.2 r'.2

/-- Arming at these two times keeps the timers related. -/
def Arms (now now' : Nat) : Prop :=
  ∀ t t' key, S.timer t t' → S.timer (t.arm now key) (t'.arm now' key)

/-- At these two times both armed keys are due or neither. -/
def DueAlike (now now' : Nat) (m : Machine σ) (m' : Machine τ) : Prop :=
  ∀ a a', m.timer.armed = some a → m'.timer.armed = some a' →
    (a.deadline ≤ now ↔ a'.deadline ≤ now')

variable {S} {m : Machine σ} {m' : Machine τ} {now now' : Nat}

/-! ## Actions -/

/-- The same outcome of a call, a step or an action, and worlds that are related after it. -/
structure Outcomes (S : Simulation E F) (r : Except EditorError Unit × (State × σ))
    (r' : Except EditorError Unit × (State × τ)) : Prop where
  result : r.1 = r'.1
  state : S.state r.2.1 r'.2.1
  editor : S.editor r.2.2 r'.2.2

section Worlds

variable {w : State × σ} {w' : State × τ}

theorem ask (hs : S.state w.1 w'.1) (he : S.editor w.2 w'.2) (call : EditorCall)
    {f : String → State → State} (hf : ∀ text, S.state (f text w.1) (f text w'.1)) :
    S.Outcomes (Step.ask E call f w) (Step.ask F call f w') := by
  have hanswer := S.answer_eq call he
  have heditor := S.call call he
  unfold Step.ask
  cases h : E call w.2 with
  | mk answer s =>
    cases h' : F call w'.2 with
    | mk answer' t =>
      rw [h, h'] at hanswer heditor
      change answer = answer' at hanswer
      rw [← hanswer]
      cases answer with
      | ok text => exact ⟨rfl, hf text, heditor⟩
      | error e => exact ⟨rfl, hs, heditor⟩

theorem runStep (hs : S.state w.1 w'.1) (he : S.editor w.2 w'.2) (step : Step) :
    S.Outcomes (step.run E w) (step.run F w') := by
  cases step with
  | setMode mode => exact ⟨rfl, S.setMode mode hs, he⟩
  | call c => exact ask hs he c (f := fun _ s => s) fun _ => hs
  | keep c => exact ask hs he c (f := fun text s => s.keep text) fun text => S.keep text hs
  | paste =>
    simp only [Step.run, S.clipboard_eq hs]
    split
    · exact ⟨rfl, hs, he⟩
    · exact ask hs he _ (f := fun _ s => s) fun _ => hs

theorem runAll (hs : S.state w.1 w'.1) (he : S.editor w.2 w'.2) (steps : List Step) :
    S.Outcomes (Step.runAll E steps w) (Step.runAll F steps w') := by
  induction steps generalizing w w' with
  | nil => exact ⟨rfl, hs, he⟩
  | cons step steps ih =>
    have hstep := runStep hs he step
    simp only [Step.runAll]
    cases h : step.run E w with
    | mk result v =>
      cases h' : step.run F w' with
      | mk result' v' =>
        rw [h, h'] at hstep
        obtain ⟨hresult, hstate, heditor⟩ := hstep
        change result = result' at hresult
        rw [← hresult]
        cases result with
        | ok _ => exact ih hstate heditor
        | error e => exact ⟨rfl, hstate, heditor⟩

end Worlds

theorem perform (h : S.Related m m') (a : Action) :
    S.Related (m.perform E a) (m'.perform F a) := by
  have hrun : S.Outcomes (a.run E (m.state, m.editor)) (a.run F (m'.state, m'.editor)) :=
    runAll h.state h.editor a.steps
  exact ⟨hrun.editor, hrun.state, h.interceptTextFields, h.timer⟩

theorem setMode_related (h : S.Related m m') (mode : Mode) :
    S.Related (m.setMode mode) (m'.setMode mode) where
  editor := h.editor
  state := S.setMode mode (S.pend "" h.state)
  interceptTextFields := h.interceptTextFields
  timer := S.cancel h.timer

/-! ## Expiry -/

theorem fallBack (h : S.Related m m') (key : String) :
    S.Related (m.fallBack E key) (m'.fallBack F key) := by
  have hmode := S.mode_eq h.state
  by_cases mode : m.state.mode = .command
  · rw [Machine.fallBack_command E key mode, Machine.fallBack_command F key (hmode ▸ mode)]
    cases Grammar.fallback? key with
    | none => exact h
    | some a =>
      have hnoted : S.Related { m with state.last := key } { m' with state.last := key } :=
        ⟨h.editor, S.note key h.state, h.interceptTextFields, h.timer⟩
      exact perform hnoted a
  · rw [Machine.fallBack_other E key mode, Machine.fallBack_other F key (hmode ▸ mode)]
    exact h

theorem armed_cases (h : S.Related m m') :
    m.timer.armed = none ∧ m'.timer.armed = none ∨
      ∃ a a', m.timer.armed = some a ∧ m'.timer.armed = some a' ∧ a.key = a'.key := by
  have hkey := S.key_eq h.timer
  cases ha : m.timer.armed with
  | none =>
    rw [ha, Option.map_none, eq_comm, Option.map_eq_none_iff] at hkey
    exact .inl ⟨rfl, hkey⟩
  | some a =>
    rw [ha, Option.map_some, eq_comm, Option.map_eq_some_iff] at hkey
    obtain ⟨a', ha', heq⟩ := hkey
    exact .inr ⟨a, a', rfl, ha', heq.symm⟩

theorem expire (h : S.Related m m') {a a' : Armed} (ha : m.timer.armed = some a)
    (ha' : m'.timer.armed = some a') (hkey : a.key = a'.key) :
    S.Answers (m.expire E a.generation) (m'.expire F a'.generation) := by
  have hslot := S.pending_eq h.state
  simp only [Machine.expire, PrefixTimer.take_live ha, PrefixTimer.take_live ha', hslot, hkey]
  split
  · have hcleared : S.Related
        { m with timer := m.timer.release, state := m.state.clearPending }
        { m' with timer := m'.timer.release, state := m'.state.clearPending } :=
      ⟨h.editor, S.pend "" h.state, h.interceptTextFields, S.release h.timer⟩
    exact ⟨rfl, fallBack hcleared a'.key⟩
  · exact ⟨rfl, h.editor, h.state, h.interceptTextFields, S.release h.timer⟩

/-- Where the armed keys have the same generation, an expiry of any generation is the same. -/
theorem expire_generation (h : S.Related m m')
    (hgen : m.timer.armed.map (·.generation) = m'.timer.armed.map (·.generation))
    (generation : Nat) : S.Answers (m.expire E generation) (m'.expire F generation) := by
  rcases armed_cases h with ⟨ha, ha'⟩ | ⟨a, a', ha, ha', hkey⟩
  · rw [Machine.expire_stale (by simp [ha]), Machine.expire_stale (by simp [ha'])]
    exact ⟨rfl, h⟩
  · have hsame : a.generation = a'.generation := by simpa [ha, ha'] using hgen
    by_cases hlive : a.generation = generation
    · have hexpire := expire h ha ha' hkey
      rwa [← hsame, hlive] at hexpire
    · rw [Machine.expire_stale (by simpa [ha] using hlive),
        Machine.expire_stale (by simpa [ha', ← hsame] using hlive)]
      exact ⟨rfl, h⟩

theorem expireDue (h : S.Related m m') (hdue : DueAlike now now' m m') :
    S.Answers (m.expireDue E now) (m'.expireDue F now') := by
  rcases armed_cases h with ⟨ha, ha'⟩ | ⟨a, a', ha, ha', hkey⟩
  · rw [Machine.expireDue_unarmed ha, Machine.expireDue_unarmed ha']
    exact ⟨rfl, h⟩
  · by_cases hd : a.deadline ≤ now
    · have hd' : a'.deadline ≤ now' := (hdue a a' ha ha').mp hd
      rw [Machine.expireDue_due ha hd, Machine.expireDue_due ha' hd']
      exact expire h ha ha' hkey
    · have hd' : ¬ a'.deadline ≤ now' := fun hd' => hd ((hdue a a' ha ha').mpr hd')
      rw [Machine.expireDue_early (by simpa [ha] using hd),
        Machine.expireDue_early (by simpa [ha'] using hd')]
      exact ⟨rfl, h⟩

/-! ## Keys -/

theorem commandKey {s s' : State} (h : S.state s s') (key : String) :
    (Grammar.commandKey key s).1 = (Grammar.commandKey key s').1 ∧
      S.state (Grammar.commandKey key s).2 (Grammar.commandKey key s').2 := by
  have hslot := S.pending_eq h
  have hopen : s.hasPending = s'.hasPending := by rw [State.hasPending, State.hasPending, hslot]
  unfold Grammar.commandKey
  rw [hopen]
  by_cases hcolon : key = ":"
  · rw [if_pos hcolon, if_pos hcolon]
    exact ⟨rfl, S.pend ":" h⟩
  rw [if_neg hcolon, if_neg hcolon]
  by_cases hpending : s'.hasPending
  · rw [if_pos hpending, if_pos hpending]
    exact ⟨by rw [hslot], S.note key (S.pend "" h)⟩
  rw [if_neg hpending, if_neg hpending]
  by_cases hfirst : Grammar.isPrefixKey key
  · rw [if_pos hfirst, if_pos hfirst]
    exact ⟨rfl, S.pend key h⟩
  · rw [if_neg hfirst, if_neg hfirst]
    exact ⟨rfl, S.note key h⟩

theorem react (h : S.Related m m') (key : String) :
    S.Answers (m.react key) (m'.react key) := by
  have hmode := S.mode_eq h.state
  unfold Machine.react
  rw [← hmode]
  cases m.state.mode with
  | off => exact ⟨rfl, h⟩
  | command =>
    obtain ⟨hreaction, hstate⟩ := commandKey h.state key
    exact ⟨hreaction, h.editor, hstate, h.interceptTextFields, S.cancel h.timer⟩
  | insert => exact ⟨rfl, h⟩
  | visual => exact ⟨rfl, h⟩

theorem follow (h : S.Related m m') (harms : S.Arms now now') (r : Reaction) :
    S.Answers (m.follow E now r) (m'.follow F now' r) := by
  cases r with
  | act a => exact ⟨rfl, perform h a⟩
  | arm key => exact ⟨rfl, h.editor, h.state, h.interceptTextFields, harms _ _ key h.timer⟩
  | pending => exact ⟨rfl, h⟩
  | consumed => exact ⟨rfl, h⟩
  | passThrough => exact ⟨rfl, h⟩

theorem dispatch (h : S.Related m m') (harms : S.Arms now now') (hdue : DueAlike now now' m m')
    (key : String) : S.Answers (m.dispatch E now key) (m'.dispatch F now' key) := by
  have hserved := (expireDue h hdue).machine
  obtain ⟨hreaction, hmachine⟩ := react hserved key
  have hfollow := follow hmachine harms ((m.expireDue E now).2.react key).1
  simp only [Machine.dispatch]
  rw [← hreaction]
  exact hfollow

theorem dispatchInput (h : S.Related m m') (harms : S.Arms now now')
    (hdue : DueAlike now now' m m') (input : KeyInput) :
    S.Answers (m.dispatchInput E now input) (m'.dispatchInput F now' input) := by
  have halone : m.LeavesAlone input ↔ m'.LeavesAlone input := by
    simp only [Machine.LeavesAlone, S.mode_eq h.state, h.interceptTextFields]
  by_cases hl : m.LeavesAlone input
  · rw [Machine.dispatchInput_alone E now hl, Machine.dispatchInput_alone F now' (halone.mp hl)]
    exact ⟨rfl, h⟩
  · have hl' : ¬ m'.LeavesAlone input := fun hl' => hl (halone.mpr hl')
    rw [Machine.dispatchInput_eq_dispatch E now hl, Machine.dispatchInput_eq_dispatch F now' hl']
    exact dispatch h harms hdue input.key

/-! ## Operations -/

/-- One operation at the same time on both sides. Writes and expiries of a given generation are not
the same to every simulation. -/
theorem apply {x : Moment σ} {x' : Moment τ} {op : Operation} (htime : x.time = x'.time)
    (h : S.Related x.machine x'.machine) (harms : S.Arms x.time x.time)
    (hdue : DueAlike x.time x.time x.machine x'.machine)
    (hexpire : ∀ generation, op = .expire generation →
      S.Answers (x.machine.expire E generation) (x'.machine.expire F generation))
    (hwrite : ∀ w, op = .write w →
      S.state (x.machine.state.write w) (x'.machine.state.write w)) :
    x.answer E op = x'.answer F op ∧ (x.apply E op).time = (x'.apply F op).time ∧
      S.Related (x.apply E op).machine (x'.apply F op).machine := by
  obtain ⟨time, m⟩ := x
  obtain ⟨time', m'⟩ := x'
  obtain rfl : time = time' := htime
  cases op with
  | dispatch key =>
    obtain ⟨hanswer, hmachine⟩ := dispatch h harms hdue key
    exact ⟨congrArg Answer.key hanswer, rfl, hmachine⟩
  | dispatchInput input =>
    obtain ⟨hanswer, hmachine⟩ := dispatchInput h harms hdue input
    exact ⟨congrArg Answer.key hanswer, rfl, hmachine⟩
  | setMode mode => exact ⟨rfl, rfl, setMode_related h mode⟩
  | expire generation =>
    obtain ⟨hanswer, hmachine⟩ := hexpire generation rfl
    exact ⟨congrArg Answer.expiry hanswer, rfl, hmachine⟩
  | expireDue =>
    obtain ⟨hanswer, hmachine⟩ := expireDue h hdue
    exact ⟨congrArg Answer.expiry hanswer, rfl, hmachine⟩
  | perform action => exact ⟨rfl, rfl, perform h action⟩
  | advance span => exact ⟨rfl, rfl, h⟩
  | write w =>
    exact ⟨rfl, rfl, h.editor, hwrite w rfl, h.interceptTextFields, h.timer⟩

/-- Operations that keep two sessions related one by one keep them related in a run. -/
theorem run {x : Moment σ} {x' : Moment τ} {ops : List Operation}
    (hstep : ∀ op ∈ ops, ∀ (y : Moment σ) (y' : Moment τ), y.time = y'.time →
      S.Related y.machine y'.machine →
      y.answer E op = y'.answer F op ∧ (y.apply E op).time = (y'.apply F op).time ∧
        S.Related (y.apply E op).machine (y'.apply F op).machine)
    (htime : x.time = x'.time) (h : S.Related x.machine x'.machine) :
    Moment.answers E ops x = Moment.answers F ops x' ∧
      (x.run E ops).time = (x'.run F ops).time ∧
      S.Related (x.run E ops).machine (x'.run F ops).machine := by
  induction ops generalizing x x' with
  | nil => exact ⟨rfl, htime, h⟩
  | cons op ops ih =>
    obtain ⟨hanswer, htime', hrelated⟩ := hstep op (by simp) x x' htime h
    obtain ⟨hanswers, hrun⟩ := ih (fun o ho => hstep o (by simp [ho])) htime' hrelated
    exact ⟨by simp only [Moment.answers, hanswer, hanswers], hrun⟩

end Simulation
end ModalKeys
