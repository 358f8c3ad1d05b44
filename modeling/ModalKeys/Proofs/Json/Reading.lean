import ModalKeys.Proofs.Json.Scalar

/-! The reader of JSON reads every text of a value as that value, down to the depth that it
allows. -/
namespace ModalKeys.Json

open Scan

variable {rest : List Char}

/-! ## Items between brackets -/

/-- The reader reads the item off a text that does not begin with white space and that does not go
on behind it. -/
structure Reads {α : Type} (r : Scan α) (a : α) (cs : List Char) : Prop where
  begins : ∃ c others, cs = c :: others ∧ isSpace c = false
  reads : ∀ rest, Ended rest → r (cs ++ rest) = some (a, rest)

theorem spaces_append {b : List Char} (hb : IsBlank b) (rest : List Char)
    (hrest : ∀ c ∈ rest.head?, isSpace c = false) : spaces (b ++ rest) = some ((), rest) :=
  skip_append hb hrest

theorem Ended.blank_append {b : List Char} (hb : IsBlank b) (hrest : Ended rest) :
    Ended (b ++ rest) := by
  cases b with
  | nil => exact hrest
  | cons c b =>
    intro d hd
    obtain rfl : c = d := Option.some.inj hd
    simp [endsValue, hb c (by simp)]

theorem mark_append {c : Char} (hc : isSpace c = false) {b b' : List Char} (hb : IsBlank b)
    (hb' : IsBlank b') (rest : List Char) (hrest : ∀ d ∈ rest.head?, isSpace d = false) :
    mark c (b ++ c :: (b' ++ rest)) = some ((), rest) := by
  have hbefore := spaces_append hb (c :: (b' ++ rest)) (by simpa using hc)
  simp [mark, hbefore, spaces_append hb' rest hrest]

theorem mark_ne {c d : Char} (hd : isSpace d = false) (hne : d ≠ c) {b : List Char}
    (hb : IsBlank b) : mark c (b ++ d :: rest) = none := by
  have hbefore := spaces_append hb (d :: rest) (by simpa using hd)
  simp [mark, hbefore, char_ne rest hne]

section

variable {α : Type} {Item : α → List Char → Prop} {item : Scan α} {a : α} {as : List α}
  {cs : List Char}

theorem Reads.not_space (h : Reads item a cs) : ∀ c ∈ (cs ++ rest).head?, isSpace c = false := by
  obtain ⟨c, others, rfl, hc⟩ := h.begins
  simpa using hc

theorem next_append (hitem : ∀ {a cs}, Item a cs → Reads item a cs) (h : WritesNext Item a cs)
    (hrest : Ended rest) : (do mark ','; item) (cs ++ rest) = some (a, rest) := by
  cases h with
  | comma before after written =>
    rename_i cs
    have hread := hitem written
    have hmark := mark_append (c := ',') rfl before after (cs ++ rest) hread.not_space
    simp [hmark, hread.reads rest hrest]

theorem WritesNext.ended (h : WritesNext Item a cs) (rest : List Char) : Ended (cs ++ rest) := by
  cases h with
  | comma before =>
    rw [List.append_assoc]
    exact .blank_append before (by simp [Ended, endsValue])

theorem WritesNext.ne_nil (h : WritesNext Item a cs) : cs ≠ [] := by
  cases h
  simp

theorem enclosed_append {opening closing : Char} (hitem : ∀ {a cs}, Item a cs → Reads item a cs)
    (hempty : ∀ rest, item (closing :: rest) = none) (hspace : isSpace closing = false)
    (hcomma : closing ≠ ',') (hends : endsValue closing)
    (h : WritesEnclosed Item opening closing as cs) (rest : List Char) :
    enclosed opening closing item (cs ++ rest) = some (as, rest) := by
  have hnotSpace : ∀ c ∈ (closing :: rest).head?, isSpace c = false := by simpa using hspace
  have hspaces : spaces (closing :: rest) = some ((), closing :: rest) :=
    spaces_append .nil _ hnotSpace
  cases h with
  | none blank =>
    simp only [enclosed]
    simp [spaces_append blank _ hnotSpace, optional_none, hempty, hspaces]
  | @items a as b b' cs text before first others after =>
    have hended : Ended (b' ++ closing :: rest) :=
      .blank_append after (by simpa [Ended] using hends)
    have hothers := many_concat (next_append hitem) (fun h => ⟨h.ne_nil, h.ended⟩) hended
      (by simp [mark_ne hspace hcomma after]) others
    have hread := hitem first
    have hfirst := hread.reads (text ++ (b' ++ closing :: rest)) (others.next (·.ended) hended)
    have hbefore := spaces_append before (cs ++ (text ++ (b' ++ closing :: rest)))
      hread.not_space
    have hrow : (do
        let first ← item
        let others ← many (do mark ','; item)
        return first :: others : Scan (List α)) (cs ++ (text ++ (b' ++ closing :: rest))) =
          some (a :: as, b' ++ closing :: rest) := by
      simp only [bind_apply, pure_apply, hfirst, hothers, Option.bind_some]
    have hafter := spaces_append after _ hnotSpace
    simp only [enclosed, List.cons_append, List.nil_append, List.append_assoc, bind_apply,
      pure_apply, char_cons, Option.bind_some, hbefore, optional_some hrow, hafter,
      Option.getD_some]

end

/-! ## Values -/

theorem member_reads {Item : Value → List Char → Prop} {value : Scan Value}
    (hvalue : ∀ {v cs}, Item v cs → Reads value v cs) {m : String × Value} {cs : List Char}
    (h : WritesMember Item m cs) : Reads (member value) m cs := by
  cases h with
  | @named name v cs b b' text string before after written =>
    have hread := hvalue written
    constructor
    · obtain ⟨chars⟩ := string
      exact ⟨'"', _, rfl, rfl⟩
    · intro rest hrest
      have hmark := mark_append (c := ':') rfl before after (text ++ rest) hread.not_space
      simp [member, string_append _ string, hmark, hread.reads rest hrest]

theorem scalar_not_word {c : Char} (hn : c ≠ 'n') (ht : c ≠ 't') (hf : c ≠ 'f') :
    scalar (c :: rest) =
      ((do return .string (← string)) <|> (do return .number (← number)) : Scan Value)
        (c :: rest) := by
  have hnull : word "null".toList (c :: rest) = none := word_ne rest _ hn
  have htrue : word "true".toList (c :: rest) = none := word_ne rest _ ht
  have hfalse : word "false".toList (c :: rest) = none := word_ne rest _ hf
  rw [scalar, orElse_right _ (bind_none hnull _), orElse_right _ (bind_none htrue _),
    orElse_right _ (bind_none hfalse _)]

theorem scalar_reads {v : Value} {cs : List Char} (h : WritesScalar v cs) :
    Reads scalar v cs := by
  cases h with
  | null => exact ⟨⟨'n', _, rfl, rfl⟩, fun rest _ => rfl⟩
  | true => exact ⟨⟨'t', _, rfl, rfl⟩, fun rest _ => rfl⟩
  | false => exact ⟨⟨'f', _, rfl, rfl⟩, fun rest _ => rfl⟩
  | @string s cs quoted =>
    have hread (rest : List Char) := string_append rest quoted
    obtain ⟨chars⟩ := quoted
    refine ⟨⟨'"', _, rfl, rfl⟩, fun rest _ => ?_⟩
    have hread := hread rest
    rw [List.cons_append] at hread ⊢
    rw [scalar_not_word (by decide) (by decide) (by decide)]
    exact orElse_left _ (bind_some hread _)
  | @number n cs parts =>
    obtain ⟨c, others, rfl, hc⟩ := parts.head
    have hne {d : Char} (hminus : '-' ≠ d) (hdigit : d.isDigit = false) : c ≠ d := by
      rcases hc with rfl | hc
      · exact hminus
      · exact ne_of_class hc hdigit
    refine ⟨⟨c, others, rfl, ?_⟩, fun rest hrest => ?_⟩
    · simp [isSpace, hne (d := ' ') (by decide) rfl, hne (d := '\t') (by decide) rfl,
        hne (d := '\n') (by decide) rfl, hne (d := '\r') (by decide) rfl]
    · have hread := number_append parts hrest
      rw [List.cons_append] at hread ⊢
      rw [scalar_not_word (hne (by decide) rfl) (hne (by decide) rfl) (hne (by decide) rfl),
        orElse_right _ (bind_none (string_ne _ (hne (by decide) rfl)) _)]
      exact bind_some hread _

theorem enclosed_ne {α : Type} {opening closing c : Char} (item : Scan α) (h : c ≠ opening) :
    enclosed opening closing item (c :: rest) = none :=
  bind_none (char_ne rest h) _

theorem value_bracket (depth : Nat) (rest : List Char) : value depth (']' :: rest) = none := by
  cases depth <;> rfl

theorem WritesEnclosed.head {α : Type} {Item : α → List Char → Prop} {opening closing : Char}
    {as : List α} {cs : List Char} (h : WritesEnclosed Item opening closing as cs) :
    ∃ others, cs = opening :: others := by
  cases h <;> exact ⟨_, rfl⟩

theorem WritesScalar.head {v : Value} {cs : List Char} (h : WritesScalar v cs) :
    ∃ c others, cs = c :: others ∧ c ≠ '[' ∧ c ≠ '\x7b' := by
  cases h with
  | null | true | false => exact ⟨_, _, rfl, by decide, by decide⟩
  | string quoted =>
    cases quoted
    exact ⟨_, _, rfl, by decide, by decide⟩
  | number parts =>
    obtain ⟨c, others, rfl, hc⟩ := parts.head
    refine ⟨c, others, rfl, ?_⟩
    rcases hc with rfl | hc
    · decide
    · exact ⟨ne_of_class hc rfl, ne_of_class hc rfl⟩

theorem value_reads {depth : Nat} {v : Value} {cs : List Char} (h : WritesValue depth v cs) :
    Reads (value depth) v cs := by
  induction depth generalizing v cs with
  | zero => exact scalar_reads h
  | succ depth ih =>
    rcases h with h | ⟨items, rfl, h⟩ | ⟨members, rfl, h⟩
    · have hscalar := scalar_reads h
      obtain ⟨c, others, rfl, harray, hobject⟩ := h.head
      refine ⟨hscalar.begins, fun rest hrest => ?_⟩
      rw [← hscalar.reads rest hrest, List.cons_append, value,
        orElse_right _ (bind_none (enclosed_ne _ harray) _),
        orElse_right _ (bind_none (enclosed_ne _ hobject) _)]
    · have hitems := enclosed_append ih (value_bracket depth) rfl (by decide) rfl h
      obtain ⟨others, rfl⟩ := h.head
      refine ⟨⟨'[', others, rfl, rfl⟩, fun rest _ => ?_⟩
      exact orElse_left _ (bind_some (hitems rest) _)
    · have hmembers := enclosed_append (member_reads ih) (fun _ => rfl) rfl (by decide) rfl h
      obtain ⟨others, rfl⟩ := h.head
      refine ⟨⟨'\x7b', others, rfl, rfl⟩, fun rest _ => ?_⟩
      have harray : enclosed '[' ']' (value depth) ('\x7b' :: others ++ rest) = none :=
        enclosed_ne _ (by decide)
      rw [value, orElse_right _ (bind_none harray _)]
      exact orElse_left _ (bind_some (hmembers rest) _)

/-- Every text of a value is read as that value. -/
theorem parse?_text {v : Value} {b cs b' : List Char} (hb : IsBlank b)
    (h : WritesValue maxDepth v cs) (hb' : IsBlank b') :
    parse? (String.ofList (b ++ (cs ++ b'))) = some v := by
  have hread := value_reads h
  have hbefore := spaces_append hb (cs ++ b') hread.not_space
  have hended : Ended (b' ++ []) := .blank_append hb' (by simp [Ended])
  have hafter := spaces_append hb' [] (by simp)
  rw [List.append_nil] at hended hafter
  rw [parse?, String.toList_ofList]
  exact whole_of_all (by simp [hbefore, hread.reads b' hended, hafter])

end ModalKeys.Json
