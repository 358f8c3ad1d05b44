import ModalKeys.Proofs.Toml.Scalar

/-! Lines that give a plain value to a bare name. A text of such lines is read line by line, and the
whole text is refused if what stands behind them is no line. -/
namespace ModalKeys.Toml

open Scan

inductive WritesPair : Option Statement → List Char → Prop where
  | line {name text : List Char} {v : Value} (nonempty : name ≠ []) (bare : ∀ c ∈ name, isBare c)
      (value : WritesScalar v text) :
      WritesPair (some (.pair [String.ofList name] v))
        (name ++ ' ' :: '=' :: ' ' :: (text ++ ['\n']))

/-- Nothing, or a bare name in front. -/
def BeginsBare (cs : List Char) : Prop := ∀ c ∈ cs.head?, isBare c

variable {name cs rest : List Char}

theorem BeginsBare.not_space (h : BeginsBare cs) : ∀ c ∈ cs.head?, isSpace c = false :=
  fun c hc => isSpace_of_class (h c hc) rfl rfl

theorem spaces_stop (h : ∀ c ∈ cs.head?, isSpace c = false) : spaces cs = some ((), cs) := by
  have hskip : skip isSpace ([] ++ cs) = some ((), cs) := skip_append (by simp) h
  exact hskip

theorem spaces_one (h : ∀ c ∈ cs.head?, isSpace c = false) :
    spaces (' ' :: cs) = some ((), cs) := by
  have hskip : skip isSpace ([' '] ++ cs) = some ((), cs) := skip_append (by simp [isSpace]) h
  exact hskip

theorem BeginsBare.spaces (h : BeginsBare cs) : Toml.spaces cs = some ((), cs) :=
  spaces_stop h.not_space

theorem beginsBare_append (hne : name ≠ []) (h : ∀ c ∈ name, isBare c) (rest : List Char) :
    BeginsBare (name ++ rest) := by
  obtain ⟨c, others, rfl⟩ := List.exists_cons_of_ne_nil hne
  intro d hd
  obtain rfl : c = d := Option.some.inj hd
  exact h c (by simp)

/-! ## One line -/

theorem keyPart_append (hne : name ≠ []) (h : ∀ c ∈ name, isBare c) (rest : List Char) :
    keyPart (name ++ ' ' :: '=' :: rest) = some (String.ofList name, '=' :: rest) := by
  have hspaces := (beginsBare_append hne h (' ' :: '=' :: rest)).spaces
  have hread : span1 isBare (name ++ ' ' :: '=' :: rest) = some (name, ' ' :: '=' :: rest) :=
    span1_append hne h (by simp [isBare])
  have hafter : spaces (' ' :: '=' :: rest) = some ((), '=' :: rest) :=
    spaces_one (by simp [isSpace])
  obtain ⟨c, others, rfl⟩ := List.exists_cons_of_ne_nil hne
  have hc : isBare c := h c (by simp)
  have hname : (basic <|> literal <|> String.ofList <$> span1 isBare)
      (c :: others ++ ' ' :: '=' :: rest) =
        some (String.ofList (c :: others), ' ' :: '=' :: rest) := by
    rw [List.cons_append, orElse_right _ (basic_ne _ (ne_of_class hc rfl)),
      orElse_right _ (literal_ne _ (ne_of_class hc rfl)), map_apply, ← List.cons_append, hread]
    rfl
  simp only [keyPart, bind_apply, hspaces, hname, hafter, Option.bind_some, pure_apply]

theorem key_append (hne : name ≠ []) (h : ∀ c ∈ name, isBare c) (rest : List Char) :
    key (name ++ ' ' :: '=' :: rest) = some (([], String.ofList name), '=' :: rest) := by
  have hdots : many (do char '.'; keyPart) ('=' :: rest) = some ([], '=' :: rest) :=
    many_none (bind_none (char_ne rest (by decide)) _)
  rw [key, bind_some (keyPart_append hne h rest), bind_some hdots]
  rfl

/-- What comes of a line hangs on its value. -/
theorem pair_append (hne : name ≠ []) (h : ∀ c ∈ name, isBare c) (value : Scan Value)
    (hcs : ∀ c ∈ cs.head?, isSpace c = false) :
    pair value (name ++ ' ' :: '=' :: ' ' :: cs) =
      (value cs).map fun read => (([String.ofList name], read.1), read.2) := by
  rw [pair, bind_some (key_append hne h _)]
  simp only [bind_apply, char_cons, spaces_one hcs, Option.bind_some, pure_apply, List.nil_append]
  cases value cs <;> rfl

theorem line_bare (h : BeginsBare cs) :
    line cs = (do
      let (key, v) ← pair (value maxDepth)
      lineRest
      return some (.pair key v) : Scan (Option Statement)) cs := by
  cases cs with
  | nil => rfl
  | cons c cs =>
    have hc : isBare c := h c rfl
    have hcomment : comment (c :: cs) = none := bind_none (char_ne cs (ne_of_class hc rfl)) _
    have hnewline : newline (c :: cs) = none := by
      rw [newline, orElse_right _ (char_ne cs (ne_of_class hc rfl))]
      exact word_ne cs _ (ne_of_class hc rfl)
    have hbracket : c ≠ '[' := ne_of_class hc rfl
    rw [line, orElse_right _ (bind_none hcomment _), orElse_right _ (bind_none hnewline _),
      orElse_right _ (bind_none (word_ne cs _ hbracket) _),
      orElse_right _ (bind_none (char_ne cs hbracket) _)]

theorem lineRest_newline (rest : List Char) : lineRest ('\n' :: rest) = some ((), rest) := by
  have hspaces : spaces ('\n' :: rest) = some ((), '\n' :: rest) :=
    spaces_stop (by simp [isSpace])
  have hcomment : maybe comment ('\n' :: rest) = some ((), '\n' :: rest) :=
    maybe_none (bind_none (char_ne rest (by decide)) _)
  have hnewline : lineEnd ('\n' :: rest) = some ((), rest) :=
    orElse_left _ (orElse_left _ (char_cons rest '\n'))
  simp [lineRest, hspaces, hcomment, hnewline]

theorem line_append {s : Option Statement} (h : WritesPair s cs) (rest : List Char) :
    line (cs ++ rest) = some (s, rest) := by
  cases h with
  | @line name text v nonempty bare value =>
    have hvalue := value_append rest value maxDepth
    have hhead : ∀ c ∈ (text ++ '\n' :: rest).head?, isSpace c = false := by
      obtain ⟨c, others, rfl, hc⟩ := value.head
      simpa using hc
    have hpair := pair_append nonempty bare (Toml.value maxDepth) hhead
    rw [hvalue] at hpair
    simp only [List.append_assoc, List.cons_append, List.nil_append]
    rw [line_bare (beginsBare_append nonempty bare _), bind_some hpair]
    simp [lineRest_newline]

/-- A number of more than 64 bits with its sign spoils its line. -/
theorem line_large (hne : name ≠ []) (h : ∀ c ∈ name, isBare c) {n : Nat} (hn : 2 ^ 63 ≤ n)
    (rest : List Char) :
    line (name ++ ' ' :: '=' :: ' ' :: (Nat.toDigits 10 n ++ '\n' :: rest)) = none := by
  have hvalue := value_toDigits rest n maxDepth
  rw [if_neg (Nat.not_lt.mpr hn)] at hvalue
  have hhead : ∀ c ∈ (Nat.toDigits 10 n ++ '\n' :: rest).head?, isSpace c = false := by
    obtain ⟨c, ds, hds, hc⟩ := toDigits_head n
    simp [hds, isSpace_of_class hc rfl rfl]
  have hpair := pair_append hne h (value maxDepth) hhead
  rw [hvalue] at hpair
  rw [line_bare (beginsBare_append hne h _)]
  exact bind_none hpair _

/-! ## Texts of lines -/

theorem WritesPair.beginsBare {s : Option Statement} (h : WritesPair s cs) (rest : List Char) :
    cs ≠ [] ∧ BeginsBare (cs ++ rest) := by
  cases h with
  | line nonempty bare =>
    rw [List.append_assoc]
    exact ⟨by simp, beginsBare_append nonempty bare _⟩

theorem statements_append {ss : List (Option Statement)} (h : Concat WritesPair ss cs)
    (hrest : BeginsBare rest) (hstop : line rest = none) :
    statements (cs ++ rest) = some (ss.filterMap id, rest) := by
  have hread {s : Option Statement} {cs rest : List Char} (h : WritesPair s cs)
      (hrest : BeginsBare rest) :
      (do let s ← line; spaces; return s : Scan (Option Statement)) (cs ++ rest) =
        some (s, rest) := by
    rw [bind_some (line_append h rest)]
    simp [hrest.spaces]
  have hmany := many_concat hread
    (fun h => ⟨(h.beginsBare []).1, fun rest => (h.beginsBare rest).2⟩)
    hrest (bind_none hstop _) h
  have hbegins : BeginsBare (cs ++ rest) := h.next (fun h rest => (h.beginsBare rest).2) hrest
  have hmark : maybe (char '\uFEFF') (cs ++ rest) = some ((), cs ++ rest) :=
    maybe_none (char_stop _ fun c hc => ne_of_class (hbegins c hc) (by decide))
  rw [statements, bind_some hmark, bind_some hbegins.spaces, bind_some hmany, pure_apply]

theorem whole_statements {ss : List (Option Statement)} (h : Concat WritesPair ss cs) :
    whole statements cs = some (ss.filterMap id) := by
  have hread : statements (cs ++ []) = some (ss.filterMap id, []) :=
    statements_append h (by simp [BeginsBare]) rfl
  rw [List.append_nil] at hread
  exact whole_of_all hread

theorem whole_statements_stop {ss : List (Option Statement)} (h : Concat WritesPair ss cs)
    (hrest : BeginsBare rest) (hne : rest ≠ []) (hstop : line rest = none) :
    whole statements (cs ++ rest) = none :=
  whole_of_rest (statements_append h hrest hstop) hne

end ModalKeys.Toml
