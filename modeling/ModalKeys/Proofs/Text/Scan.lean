import ModalKeys.Text.Scan

/-! What readers take off the front of a text, and what they leave. -/
namespace ModalKeys

/-- Texts of items, one behind the other. -/
inductive Concat {α : Type} (Item : α → List Char → Prop) : List α → List Char → Prop where
  | nil : Concat Item [] []
  | cons {a : α} {as : List α} {cs text : List Char} (item : Item a cs)
      (others : Concat Item as text) : Concat Item (a :: as) (cs ++ text)

theorem Concat.flatMap {α : Type} {Item : α → List Char → Prop} {write : α → List Char}
    (h : ∀ a, Item a (write a)) (as : List α) : Concat Item as (as.flatMap write) := by
  induction as with
  | nil => exact .nil
  | cons a as ih => exact .cons (h a) ih

/-- What holds of a text that begins with an item holds of a text behind which only items come. -/
theorem Concat.next {α : Type} {Item : α → List Char → Prop} {Next : List Char → Prop}
    {as : List α} {cs rest : List Char} (hitem : ∀ {a cs}, Item a cs → ∀ rest, Next (cs ++ rest))
    (hrest : Next rest) (h : Concat Item as cs) : Next (cs ++ rest) := by
  cases h with
  | nil => exact hrest
  | cons item others =>
    rw [List.append_assoc]
    exact hitem item _

namespace Scan

/-- A character of a class is none that the class does not have. -/
theorem ne_of_class {p : Char → Bool} {c d : Char} (hc : p c) (hd : p d = false) : c ≠ d := by
  rintro rfl
  rw [hc] at hd
  cases hd

variable {α β : Type} {r : Scan α} (r' : Scan α) (cs : List Char) {rest : List Char} {a : α}

@[simp] theorem pure_apply (a : α) : (pure a : Scan α) cs = some (a, cs) := rfl

@[simp] theorem bind_apply (f : α → Scan β) :
    (r' >>= f) cs = (r' cs).bind fun read => f read.1 read.2 := rfl

@[simp] theorem map_apply (f : α → β) :
    (f <$> r') cs = (r' cs).map fun read => (f read.1, read.2) := by
  cases h : r' cs <;> simp [← bind_pure_comp, h]

variable {cs}

theorem bind_some (h : r cs = some (a, rest)) (f : α → Scan β) : (r >>= f) cs = f a rest := by
  rw [bind_apply, h, Option.bind_some]

theorem bind_none (h : r cs = none) (f : α → Scan β) : (r >>= f) cs = none := by
  rw [bind_apply, h, Option.bind_none]

theorem orElse_left (h : r cs = some (a, rest)) : (r <|> r') cs = some (a, rest) := by
  change (r cs <|> r' cs) = _
  rw [h]
  rfl

theorem orElse_right (h : r cs = none) : (r <|> r') cs = r' cs := by
  change (r cs <|> r' cs) = _
  rw [h]
  rfl

theorem optional_some (h : r cs = some (a, rest)) : optional r cs = some (some a, rest) :=
  orElse_left _ (by simp [h])

theorem optional_none (h : r cs = none) : optional r cs = some (none, cs) := by
  rw [optional, orElse_right _ (by simp [h]), pure_apply]

theorem maybe_none (h : r cs = none) : maybe r cs = some ((), cs) := by simp [maybe, h]

theorem spelled_none (h : r cs = none) : spelled r cs = none := by simp [spelled, h]

theorem many_none (h : r cs = none) : many r cs = some ([], cs) := by
  cases cs with
  | nil => rfl
  | cons c cs => simp [many, upTo, h]

theorem whole_of_all (h : r cs = some (a, [])) : whole r cs = some a := by
  simp [whole, StateT.run, seqLeft_eq_bind, h, atEnd]

theorem whole_of_rest (h : r cs = some (a, rest)) (hne : rest ≠ []) : whole r cs = none := by
  simp [whole, StateT.run, seqLeft_eq_bind, h, atEnd, hne]

variable (cs) {p : Char → Bool} {c d : Char}

@[simp] theorem char_cons (c : Char) : char c (c :: cs) = some ((), cs) := by simp [char]

theorem char_ne (h : d ≠ c) : char c (d :: cs) = none := by simp [char, h]

theorem char_stop (h : ∀ d ∈ cs.head?, d ≠ c) : char c cs = none := by
  cases cs with
  | nil => rfl
  | cons d cs => exact char_ne cs (h d rfl)

theorem one_of_mem (h : p c) : one p (c :: cs) = some (c, cs) := by simp [one, h]

theorem one_of_not_mem (h : p c = false) : one p (c :: cs) = none := by simp [one, h]

theorem one_stop (h : ∀ d ∈ cs.head?, p d = false) : one p cs = none := by
  cases cs with
  | nil => rfl
  | cons d cs => exact one_of_not_mem cs (h d rfl)

@[simp] theorem word_append (w : List Char) : word w (w ++ cs) = some ((), cs) := by
  induction w with
  | nil => rfl
  | cons c w ih => simp [word, ih]

theorem word_ne (w : List Char) (h : d ≠ c) : word (c :: w) (d :: cs) = none := by
  simp [word, char_ne cs h]

@[simp] theorem check_true : check true cs = some ((), cs) := rfl

@[simp] theorem check_false : check false cs = none := rfl

/-! ## Runs of a class -/

variable {cs} {taken : List Char}

theorem takeWhile_append_stop (h : ∀ c ∈ taken, p c) (hstop : ∀ c ∈ rest.head?, p c = false) :
    (taken ++ rest).takeWhile p = taken := by
  rw [List.takeWhile_append_of_pos h]
  cases rest with
  | nil => simp
  | cons d rest =>
    have hd : p d = false := hstop d rfl
    simp [hd]

theorem dropWhile_append_stop (h : ∀ c ∈ taken, p c) (hstop : ∀ c ∈ rest.head?, p c = false) :
    (taken ++ rest).dropWhile p = rest := by
  rw [List.dropWhile_append_of_pos h]
  cases rest with
  | nil => rfl
  | cons d rest =>
    have hd : p d = false := hstop d rfl
    simp [hd]

theorem skip_append (h : ∀ c ∈ taken, p c) (hstop : ∀ c ∈ rest.head?, p c = false) :
    skip p (taken ++ rest) = some ((), rest) := by
  rw [skip, dropWhile_append_stop h hstop]

theorem span_append (h : ∀ c ∈ taken, p c) (hstop : ∀ c ∈ rest.head?, p c = false) :
    span p (taken ++ rest) = some (taken, rest) := by
  rw [span, takeWhile_append_stop h hstop, dropWhile_append_stop h hstop]

theorem span1_append (hne : taken ≠ []) (h : ∀ c ∈ taken, p c)
    (hstop : ∀ c ∈ rest.head?, p c = false) : span1 p (taken ++ rest) = some (taken, rest) := by
  simp only [span1, takeWhile_append_stop h hstop, dropWhile_append_stop h hstop]

/-! ## Repetition -/

theorem exactly_append (rest : List Char) (h : ∀ c ∈ taken, p c) :
    exactly taken.length (one p) (taken ++ rest) = some (taken, rest) := by
  induction taken with
  | nil => rfl
  | cons c taken ih =>
    have htaken : ∀ d ∈ taken, p d := fun d hd => h d (by simp [hd])
    simp [exactly, one_of_mem _ (h c (by simp)), ih htaken]

/-- Whether or not there are enough, what is left begins with one more of the class or with what
stands behind them. -/
theorem exactly_stop (stop : Char) (rest : List Char) (hstop : p stop = false) (n : Nat)
    (h : ∀ c ∈ taken, p c) :
    exactly n (one p) (taken ++ stop :: rest) = none ∨
      ∃ read left, (∀ c ∈ left, p c) ∧
        exactly n (one p) (taken ++ stop :: rest) = some (read, left ++ stop :: rest) := by
  induction n generalizing taken with
  | zero => exact .inr ⟨[], taken, h, rfl⟩
  | succ n ih =>
    cases taken with
    | nil => exact .inl (bind_none (one_of_not_mem _ hstop) _)
    | cons c taken =>
      have hc := one_of_mem (taken ++ stop :: rest) (h c (by simp))
      have hothers : ∀ d ∈ taken, p d := fun d hd => h d (by simp [hd])
      rw [List.cons_append, exactly, bind_some hc]
      rcases ih hothers with hnone | ⟨read, left, hleft, hread⟩
      · exact .inl (bind_none hnone _)
      · exact .inr ⟨c :: read, left, hleft, by rw [bind_some hread, pure_apply]⟩

theorem hex_append (rest : List Char) (h : ∀ c ∈ taken, isHexDigit c) :
    hex taken.length (taken ++ rest) = some (ofDigits 16 taken, rest) := by
  simp [hex, exactly_append rest h]

section

variable {Item : α → List Char → Prop} {Next : List Char → Prop} {as : List α}
  (hread : ∀ {a cs rest}, Item a cs → Next rest → r (cs ++ rest) = some (a, rest))
  (hitem : ∀ {a cs}, Item a cs → cs ≠ [] ∧ ∀ rest, Next (cs ++ rest))
  (hrest : Next rest) (hstop : r rest = none)
include hread hitem hrest hstop

/-- A limit that is not less than the length of the text is never met. -/
theorem upTo_concat (h : Concat Item as cs) (n : Nat) (acc : List α)
    (hn : (cs ++ rest).length ≤ n) :
    upTo r n acc (cs ++ rest) = some (acc.reverse ++ as, rest) := by
  induction h generalizing n acc with
  | nil =>
    cases n with
    | zero => simp [upTo]
    | succ n => simp [upTo, hstop]
  | @cons a as cs text item others ih =>
    have hcs : 0 < cs.length := List.length_pos_iff.mpr (hitem item).1
    simp only [List.append_assoc, List.length_append] at hn
    obtain ⟨n, rfl⟩ : ∃ k, n = k + 1 := ⟨n - 1, by omega⟩
    have hnext : Next (text ++ rest) := others.next (fun h => (hitem h).2) hrest
    have hlater := ih n (a :: acc) (by simp only [List.length_append]; omega)
    simp only [upTo, List.append_assoc, hread item hnext, hlater, List.reverse_cons,
      List.singleton_append]

/-- A reader of items reads them one after the other and stops at a text that begins with none.
`Next` tells the texts behind which an item is known to end. -/
theorem many_concat (h : Concat Item as cs) : many r (cs ++ rest) = some (as, rest) := by
  have hupTo := upTo_concat hread hitem hrest hstop h (cs ++ rest).length [] (Nat.le_refl _)
  rwa [List.reverse_nil, List.nil_append] at hupTo

end

/-- A reader of single characters reads all of its class that come first. -/
theorem many_chars {r : Scan Char} (hread : ∀ c rest, p c → r (c :: rest) = some (c, rest))
    (h : ∀ c ∈ taken, p c) (hstop : r rest = none) :
    many r (taken ++ rest) = some (taken, rest) := by
  have hchars : Concat (fun c cs => cs = [c] ∧ p c) taken taken := by
    clear hstop
    induction taken with
    | nil => exact .nil
    | cons c taken ih => exact .cons ⟨rfl, h c (by simp)⟩ (ih fun d hd => h d (by simp [hd]))
  have hone {c : Char} {cs rest : List Char} (h : cs = [c] ∧ p c) (_ : True) :
      r (cs ++ rest) = some (c, rest) := by
    rw [h.1]
    exact hread c rest h.2
  exact many_concat hone (fun h => ⟨by simp [h.1], fun _ => trivial⟩) trivial hstop hchars

end Scan
end ModalKeys
