import ModalKeys.Toml.Table

/-! Tables as the lines of a text make them. Pairs of a name and a value under different names make
the root table just as they stand, and no value gets into the root table but that of a pair. -/
namespace ModalKeys.Toml

namespace Entries

variable {name : String} {value : Value} {es es' : Entries}

theorem put_of_not_mem (h : name ∉ es.map Prod.fst) :
    put name value es = es ++ [(name, value)] := by
  induction es with
  | nil => rfl
  | cons e es ih =>
    simp only [List.map_cons, List.mem_cons, not_or] at h
    have hne : (e.1 == name) = false := by simpa using Ne.symm h.1
    simp only [put, hne, Bool.false_eq_true, if_false, ih h.2, List.cons_append]

theorem addPair_of_not_mem (h : name ∉ es.map Prod.fst) :
    addPair value [name] es = some (es ++ [(name, value)]) := by
  have hlookup : es.lookup name = none := by
    rw [List.lookup_eq_none_iff]
    intro e he
    have hne : name ≠ e.1 := fun heq => h (heq ▸ List.mem_map_of_mem he)
    simpa using hne
  simp only [addPair, hlookup, put_of_not_mem h]

/-! ## Where the values of a table come from -/

variable {P : Value → Prop}

/-- The property holds of every value of the table itself; its subtables are not looked into. -/
def All (P : Value → Prop) (es : Entries) : Prop := ∀ e ∈ es, P e.2

/-- A property of plain values, on which tables have no say. -/
structure IgnoresTables (P : Value → Prop) : Prop where
  table : ∀ origin es, P (.table origin es)
  tables : ∀ latest earlier, P (.tables latest earlier)

theorem All.put (hes : All P es) (hvalue : P value) : All P (put name value es) := by
  induction es with
  | nil => simpa [All, Entries.put] using hvalue
  | cons e es ih =>
    have hhead : P e.2 := hes e (by simp)
    have hothers : All P es := fun e he => hes e (by simp [he])
    simp only [Entries.put]
    split
    · exact List.forall_mem_cons.mpr ⟨hvalue, hothers⟩
    · exact List.forall_mem_cons.mpr ⟨hhead, ih hothers⟩

theorem All.of_map_put {α : Type} {option : Option α} {make : α → Value} (hes : All P es)
    (hmake : ∀ a, P (make a)) (h : (option.map fun a => Entries.put name (make a) es) = some es') :
    All P es' := by
  obtain ⟨a, -, rfl⟩ := Option.map_eq_some_iff.mp h
  exact hes.put (hmake a)

theorem All.addPair (hP : IgnoresTables P) (hes : All P es) (hvalue : P value) {path : List String}
    (h : addPair value path es = some es') : All P es' := by
  unfold Entries.addPair at h
  split at h
  · cases h
  · split at h
    · cases h
      exact hes.put hvalue
    · cases h
  · split at h
    · exact hes.of_map_put (hP.table _) h
    · exact hes.of_map_put (hP.table _) h
    · split at h
      · cases h
      · exact hes.of_map_put (hP.table _) h
    · split at h
      · cases h
      · exact hes.of_map_put (fun latest => hP.tables latest _) h
    · cases h

/-- Whatever is changed further down only replaces a table by a table. -/
theorem All.changeAt (hP : IgnoresTables P) (hes : All P es) {change : Entries → Option Entries}
    (hchange : ∀ es', change es = some es' → All P es') {path : List String}
    (h : changeAt change path es = some es') : All P es' := by
  unfold Entries.changeAt at h
  split at h
  · exact hchange _ h
  · split at h
    · exact hes.of_map_put (hP.table _) h
    · cases h
    · exact hes.of_map_put (hP.table _) h
    · exact hes.of_map_put (fun latest => hP.tables latest _) h
    · cases h

theorem All.openTable (hP : IgnoresTables P) (hes : All P es)
    (h : openTable name es = some es') : All P es' := by
  unfold Entries.openTable at h
  split at h <;> cases h <;> exact hes.put (hP.table _ _)

theorem All.openElement (hP : IgnoresTables P) (hes : All P es)
    (h : openElement name es = some es') : All P es' := by
  unfold Entries.openElement at h
  split at h <;> cases h <;> exact hes.put (hP.tables _ _)

theorem All.of_lookup (hes : All P es) (h : es.lookup name = some value) : P value := by
  induction es with
  | nil => cases h
  | cons e es ih =>
    rw [List.lookup_cons] at h
    split at h
    · cases h
      exact hes e (by simp)
    · exact ih (fun e he => hes e (by simp [he])) h

end Entries

namespace Document

variable {P : Value → Prop} {d d' : Document}

theorem add_all (hP : Entries.IgnoresTables P) (hd : Entries.All P d.root) {statement : Statement}
    (hpair : ∀ key v, statement = .pair key v → P v) (h : d.add statement = some d') :
    Entries.All P d'.root := by
  cases statement with
  | table path name =>
    obtain ⟨root, hroot, hnext⟩ := Option.bind_eq_some_iff.mp h
    cases hnext
    exact hd.changeAt hP (fun _ => hd.openTable hP) hroot
  | element path name =>
    obtain ⟨root, hroot, hnext⟩ := Option.bind_eq_some_iff.mp h
    cases hnext
    exact hd.changeAt hP (fun _ => hd.openElement hP) hroot
  | pair key value =>
    obtain ⟨root, hroot, hnext⟩ := Option.bind_eq_some_iff.mp h
    cases hnext
    exact hd.changeAt hP (fun _ => hd.addPair hP (hpair key value rfl)) hroot

theorem foldlM_add_all (hP : Entries.IgnoresTables P) {statements : List Statement}
    (hpairs : ∀ key v, .pair key v ∈ statements → P v) (hd : Entries.All P d.root)
    (h : statements.foldlM add d = some d') : Entries.All P d'.root := by
  induction statements generalizing d with
  | nil =>
    cases h
    exact hd
  | cons statement statements ih =>
    rw [List.foldlM_cons] at h
    obtain ⟨next, hnext, hrest⟩ := Option.bind_eq_some_iff.mp h
    have hall : Entries.All P next.root :=
      add_all hP hd (fun key v he => hpairs key v (by simp [he])) hnext
    exact ih (fun key v hv => hpairs key v (by simp [hv])) hall hrest

theorem ofStatements?_all (hP : Entries.IgnoresTables P) {statements : List Statement}
    {entries : Entries} (hpairs : ∀ key v, .pair key v ∈ statements → P v)
    (h : ofStatements? statements = some entries) : Entries.All P entries := by
  obtain ⟨d, hd, rfl⟩ := Option.map_eq_some_iff.mp h
  exact foldlM_add_all hP hpairs (by simp [Entries.All]) hd

/-! ## Pairs without dots -/

theorem foldlM_add_pairs (before entries : Entries)
    (h : ((before ++ entries).map Prod.fst).Nodup) :
    (entries.map fun e => Statement.pair [e.1] e.2).foldlM add { root := before } =
      some { root := before ++ entries } := by
  induction entries generalizing before with
  | nil => simp
  | cons e entries ih =>
    have hnew : e.1 ∉ before.map Prod.fst := by
      rw [List.map_append, List.nodup_append] at h
      exact fun hmem => h.2.2 _ hmem _ (by simp) rfl
    have hadd : add { root := before } (.pair [e.1] e.2) = some { root := before ++ [e] } := by
      simp [add, Entries.changeAt, Entries.addPair_of_not_mem hnew]
    rw [List.map_cons, List.foldlM_cons, hadd, List.append_cons before e entries]
    exact ih (before ++ [e]) (by rwa [← List.append_cons])

/-- Pairs under different names are the entries of the root table, in their order. -/
theorem ofStatements?_pairs {entries : Entries} (h : (entries.map Prod.fst).Nodup) :
    ofStatements? (entries.map fun e => .pair [e.1] e.2) = some entries := by
  have hfold := foldlM_add_pairs [] entries h
  rw [ofStatements?, hfold]
  rfl

end Document
end ModalKeys.Toml
