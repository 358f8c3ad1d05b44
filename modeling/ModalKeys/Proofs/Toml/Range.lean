import Mathlib.Algebra.Group.Int.Defs
import ModalKeys.Proofs.Text.Yields
import ModalKeys.Proofs.Toml.Entries
import ModalKeys.Toml.Reader

/-! The integers of a text have 64 bits with their sign, in whatever base they are written. -/
namespace ModalKeys.Toml

open Scan

/-- An integer is within 64 bits with its sign; of other values nothing is said. -/
def Value.InRange : Value → Prop
  | .integer n => -2 ^ 63 ≤ n ∧ n < 2 ^ 63
  | _ => True

theorem inRange_ignoresTables : Entries.IgnoresTables Value.InRange where
  table _ _ := trivial
  tables _ _ := trivial

theorem integer_inRange : Yields integer fun n => -2 ^ 63 ≤ n ∧ n < 2 ^ 63 := by
  refine .after fun n => (Yields.check _).bind fun _ hcheck => .pure ?_
  have hpow : Int.pow 2 63 = 2 ^ 63 := rfl
  simpa [hpow] using hcheck

theorem scalar_inRange : Yields scalar Value.InRange := by
  have hinteger : Yields (do return .integer (← integer) : Scan Value) Value.InRange :=
    integer_inRange.bind fun n hn => .pure hn
  have hother {α : Type} (r : Scan α) {f : α → Value} (hf : ∀ a, (f a).InRange) :
      Yields (do return f (← r) : Scan Value) Value.InRange := .after fun a => .pure (hf a)
  exact .orElse (hother string fun _ => trivial) <|
    .orElse (hother _ fun _ => trivial) <| .orElse (hother _ fun _ => trivial) <|
    .orElse (hother dateTime fun _ => trivial) <| .orElse (hother float fun _ => trivial) hinteger

theorem value_inRange (depth : Nat) : Yields (value depth) Value.InRange := by
  cases depth with
  | zero => exact scalar_inRange
  | succ depth =>
    have harray : Yields (do return .array (← array (value depth)) : Scan Value) Value.InRange :=
      .after fun _ => .pure trivial
    have htable : Yields (do return .table .inline (← inlineTable (value depth)) : Scan Value)
        Value.InRange := .after fun _ => .pure trivial
    exact .orElse harray (.orElse htable scalar_inRange)

/-- What a pair of the text gives to its name is in range. -/
def Statement.InRange (s : Statement) : Prop := ∀ key v, s = .pair key v → v.InRange

theorem pair_inRange : Yields (pair (value maxDepth)) fun p => p.2.InRange :=
  .after fun _ => .after fun _ => .after fun _ =>
    (value_inRange maxDepth).bind fun _ hv => .pure hv

theorem line_inRange : Yields line fun s => ∀ statement ∈ s, statement.InRange := by
  refine .orElse (.after fun _ => .after fun _ => .pure (by simp)) <|
    .orElse (.after fun _ => .pure (by simp)) <| .orElse ?_ <| .orElse ?_ <|
    pair_inRange.bind fun p hp => .after fun _ => .pure ?_
  · refine .after fun _ => .after fun _ => .after fun _ => .after fun _ => .pure ?_
    rintro statement hs key v rfl
    cases hs
  · refine .after fun _ => .after fun _ => .after fun _ => .after fun _ => .pure ?_
    rintro statement hs key v rfl
    cases hs
  · rintro statement hs key v rfl
    cases hs
    exact hp

theorem statements_inRange : Yields statements fun ss => ∀ s ∈ ss, s.InRange := by
  have hline : Yields (do let s ← line; spaces; return s : Scan (Option Statement)) fun s =>
      ∀ statement ∈ s, statement.InRange := line_inRange.bind fun s hs => .after fun _ => .pure hs
  refine .after fun _ => .after fun _ => hline.many.bind fun lines hlines => .pure fun s hs => ?_
  obtain ⟨line, hmem, hsome⟩ := List.mem_filterMap.mp hs
  exact hlines line hmem s hsome

/-- Every integer of the root table is within 64 bits. -/
theorem parse?_inRange {text : String} {entries : Entries} (h : parse? text = some entries) :
    Entries.All Value.InRange entries := by
  obtain ⟨ss, hss, hentries⟩ := Option.bind_eq_some_iff.mp h
  have hrange : ∀ s ∈ ss, s.InRange := statements_inRange.whole hss
  exact Document.ofStatements?_all inRange_ignoresTables (fun key v hv => hrange _ hv key v rfl)
    hentries

end ModalKeys.Toml
