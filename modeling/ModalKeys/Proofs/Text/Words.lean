import ModalKeys.Text.Blank

/-! The words of a text are its maximal runs without a blank. A line feed is a blank, and so is a
carriage return, so it makes no difference whether a text is first cut into lines. -/
namespace ModalKeys.Text

/-- The text is made of these words, with blanks around them and between any two: no word is empty,
holds a blank, or could be longer. -/
inductive Worded : List Char → List (List Char) → Prop where
  | blanks {gap : List Char} (blank : ∀ c ∈ gap, isBlank c) : Worded gap []
  | word {gap word rest : List Char} {later : List (List Char)}
      (blank : ∀ c ∈ gap, isBlank c) (nonempty : word ≠ []) (solid : ∀ c ∈ word, isBlank c = false)
      (ends : ∀ c ∈ rest.head?, isBlank c) (more : Worded rest later) :
      Worded (gap ++ (word ++ rest)) (word :: later)

variable {c : Char} {cs rest gap word : List Char} {ws : List (List Char)}

/-! ## Cutting at blanks -/

/-- Words end at every blank. -/
theorem words_append_blank (h : isBlank c) (cs rest : List Char) :
    words (cs ++ c :: rest) = words cs ++ words rest := by
  rw [words, List.splitOnP_append_cons cs rest h, List.filter_append, words, words]

theorem words_nil : words [] = [] := rfl

theorem words_blanks_append (h : ∀ c ∈ gap, isBlank c) (cs : List Char) :
    words (gap ++ cs) = words cs := by
  induction gap with
  | nil => rfl
  | cons c gap ih =>
    have hcut := words_append_blank (h c (by simp)) [] (gap ++ cs)
    rw [List.nil_append, words_nil, List.nil_append] at hcut
    rw [List.cons_append, hcut, ih fun d hd => h d (by simp [hd])]

theorem words_solid (hne : word ≠ []) (h : ∀ c ∈ word, isBlank c = false) :
    words word = [word] := by
  rw [words, List.splitOnP_eq_singleton h]
  simp [hne]

theorem words_solid_append (hne : word ≠ []) (h : ∀ c ∈ word, isBlank c = false)
    (hends : ∀ c ∈ rest.head?, isBlank c) : words (word ++ rest) = word :: words rest := by
  cases rest with
  | nil => rw [List.append_nil, words_solid hne h, words_nil]
  | cons c rest =>
    have hblank : isBlank c := hends c (by simp)
    have hgap : ∀ d ∈ [c], isBlank d := by simpa using hblank
    have hrest : words (c :: rest) = words rest := words_blanks_append hgap rest
    rw [words_append_blank hblank, words_solid hne h, hrest]
    rfl

/-! ## Every text in one way -/

theorem Worded.words_eq (h : Worded cs ws) : words cs = ws := by
  induction h with
  | @blanks gap blank => rw [← List.append_nil gap, words_blanks_append blank, words_nil]
  | word blank nonempty solid ends more ih =>
    rw [words_blanks_append blank, words_solid_append nonempty solid ends, ih]

theorem Worded.cons_blank (hc : isBlank c) (h : Worded cs ws) : Worded (c :: cs) ws := by
  have hgap {gap : List Char} (hblank : ∀ d ∈ gap, isBlank d) : ∀ d ∈ c :: gap, isBlank d := by
    simpa [hc] using hblank
  cases h with
  | blanks blank => exact .blanks (hgap blank)
  | word blank nonempty solid ends more => exact .word (hgap blank) nonempty solid ends more

/-- A character that is not blank begins a word, or makes the first one longer if that begins the
text. -/
theorem Worded.cons_solid (hc : isBlank c = false) (h : Worded cs ws) :
    ∃ ws', Worded (c :: cs) ws' := by
  have halone (hends : ∀ d ∈ cs.head?, isBlank d) : Worded ([] ++ ([c] ++ cs)) ([c] :: ws) :=
    .word (by simp) (by simp) (by simpa using hc) hends h
  cases h with
  | @blanks gap blank => exact ⟨_, halone fun d hd => blank d (List.mem_of_mem_head? hd)⟩
  | @word gap first rest later blank nonempty solid ends more =>
    cases gap with
    | nil =>
      have hlonger : ∀ d ∈ c :: first, isBlank d = false := by simpa [hc] using solid
      have hword : Worded ([] ++ ((c :: first) ++ rest)) ((c :: first) :: later) :=
        .word (by simp) (by simp) hlonger ends more
      exact ⟨_, hword⟩
    | cons d gap =>
      have hblank : isBlank d := blank d (by simp)
      exact ⟨_, halone (by simpa using hblank)⟩

theorem exists_worded (cs : List Char) : ∃ ws, Worded cs ws := by
  induction cs with
  | nil => exact ⟨[], .blanks (by simp)⟩
  | cons c cs ih =>
    obtain ⟨ws, h⟩ := ih
    cases hc : isBlank c with
    | true => exact ⟨ws, h.cons_blank hc⟩
    | false => exact h.cons_solid hc

theorem worded_iff : Worded cs ws ↔ ws = words cs := by
  refine ⟨fun h => h.words_eq.symm, ?_⟩
  rintro rfl
  obtain ⟨ws, h⟩ := exists_worded cs
  exact h.words_eq.symm ▸ h

/-! ## Lines -/

/-- A line without the carriage return at its end. -/
def withoutReturn (line : List Char) : List Char :=
  if line.getLast? = some '\r' then line.dropLast else line

theorem words_withoutReturn (line : List Char) : words (withoutReturn line) = words line := by
  unfold withoutReturn
  split
  · rename_i hlast
    obtain ⟨before, rfl⟩ := List.getLast?_eq_some_iff.mp hlast
    have hreturn : isBlank '\r' := by decide
    rw [List.dropLast_concat, words_append_blank hreturn, words_nil, List.append_nil]
  · rfl

theorem words_intercalate (ls : List (List Char)) :
    words (['\n'].intercalate ls) = ls.flatMap words := by
  have hfeed : isBlank '\n' := by decide
  induction ls with
  | nil => rfl
  | cons line ls ih =>
    cases ls with
    | nil => simp
    | cons next ls =>
      rw [List.intercalate_cons_cons, List.append_assoc, List.singleton_append,
        words_append_blank hfeed, ih]
      exact List.flatMap_cons.symm

/-- The words of the lines are the words of the text, whether its lines end in a line feed alone or
in a carriage return and a line feed. -/
theorem flatMap_words_lines (cs : List Char) : (lines cs).flatMap words = words cs := by
  rw [← words_intercalate, lines, List.intercalate_splitOn]

theorem flatMap_words_withoutReturn (cs : List Char) :
    ((lines cs).map withoutReturn).flatMap words = words cs := by
  rw [List.flatMap_map, ← flatMap_words_lines]
  simp only [words_withoutReturn]

end ModalKeys.Text
