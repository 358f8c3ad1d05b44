import ModalKeys.Proofs.Text.Scan

/-! What is known of a reader's outcome whatever text it is given. -/
namespace ModalKeys.Scan

variable {α β : Type} {r r' : Scan α} {P Q : α → Prop}

/-- Whatever the reader reads has the property. -/
def Yields (r : Scan α) (P : α → Prop) : Prop := ∀ ⦃cs a rest⦄, r cs = some (a, rest) → P a

namespace Yields

theorem pure {a : α} (h : P a) : Yields (Pure.pure a) P := by
  intro cs b rest hread
  cases hread
  exact h

theorem bind {Q : β → Prop} {f : α → Scan β} (hr : Yields r P)
    (hf : ∀ a, P a → Yields (f a) Q) : Yields (r >>= f) Q := by
  intro cs b rest hread
  rw [bind_apply] at hread
  obtain ⟨⟨a, left⟩, ha, hb⟩ := Option.bind_eq_some_iff.mp hread
  exact hf a (hr ha) hb

theorem of_forall (h : ∀ a, P a) : Yields r P := fun _ a _ _ => h a

/-- Nothing needs to be known of what is read first. -/
theorem after {Q : β → Prop} {f : α → Scan β} (hf : ∀ a, Yields (f a) Q) : Yields (r >>= f) Q :=
  bind (of_forall (P := fun _ => True) fun _ => trivial) fun a _ => hf a

theorem orElse (h : Yields r P) (h' : Yields r' P) : Yields (r <|> r') P := by
  intro cs a rest hread
  cases hr : r cs with
  | none =>
    rw [orElse_right _ hr] at hread
    exact h' hread
  | some read =>
    rw [orElse_left _ hr] at hread
    cases hread
    exact h hr

theorem check (b : Bool) : Yields (Scan.check b) fun _ => b := by
  intro cs u rest hread
  cases b with
  | true => rfl
  | false => cases hread

theorem upTo (h : Yields r P) (n : Nat) {acc : List α} (hacc : ∀ a ∈ acc, P a) :
    Yields (Scan.upTo r n acc) fun as => ∀ a ∈ as, P a := by
  induction n generalizing acc with
  | zero => exact pure (by simpa using hacc)
  | succ n ih =>
    intro cs as rest hread
    simp only [Scan.upTo] at hread
    split at hread
    · rename_i a left ha
      exact ih (List.forall_mem_cons.mpr ⟨h ha, hacc⟩) hread
    · cases hread
      simpa using hacc

theorem many (h : Yields r P) : Yields (Scan.many r) fun as => ∀ a ∈ as, P a :=
  fun _ _ _ hread => h.upTo _ (by simp) hread

theorem whole (h : Yields r P) {text : List Char} {a : α} (hread : Scan.whole r text = some a) :
    P a := by
  obtain ⟨⟨b, rest⟩, hb, rfl⟩ := Option.map_eq_some_iff.mp hread
  have hfirst : Yields (r <* atEnd) P := by
    rw [seqLeft_eq_bind]
    exact h.bind fun a ha => after fun _ => pure ha
  exact hfirst hb

end Yields
end ModalKeys.Scan
