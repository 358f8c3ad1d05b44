import Mathlib.Data.List.Basic
import ModalKeys.Key.Stroke
import ModalKeys.Proofs.Text.Numeral
import ModalKeys.Proofs.Text.Scan

/-! The text of a stroke tells the stroke. The name of a key can be read back, and it has no plus
sign but perhaps at its very beginning, so the marks of the modifiers stand apart from it. -/
namespace ModalKeys

/-! ## Names of keys -/

namespace KeyCode

/-- The keys that have no character and no number. -/
def fixed : List KeyCode :=
  [backspace, enter, left, right, up, down, home, endKey, pageUp, pageDown, tab, backTab, delete,
    insert, null, esc, capsLock, scrollLock, numLock, printScreen, pause, menu, keypadBegin,
    media .play, media .pause, media .playPause, media .reverse, media .stop, media .fastForward,
    media .rewind, media .trackNext, media .trackPrevious, media .record, media .lowerVolume,
    media .raiseVolume, media .muteVolume, modifier .leftShift, modifier .leftControl,
    modifier .leftAlt, modifier .leftSuper, modifier .leftHyper, modifier .leftMeta,
    modifier .rightShift, modifier .rightControl, modifier .rightAlt, modifier .rightSuper,
    modifier .rightHyper, modifier .rightMeta, modifier .isoLevel3Shift, modifier .isoLevel5Shift]

theorem cases_fixed (code : KeyCode) :
    (∃ c, code = char c) ∨ (∃ n, code = function n) ∨ code ∈ fixed := by
  cases code with
  | char c => exact .inl ⟨c, rfl⟩
  | function n => exact .inr (.inl ⟨n, rfl⟩)
  | media key => cases key <;> simp [fixed]
  | modifier key => cases key <;> simp [fixed]
  | _ => simp [fixed]

/-- The key of a spelling. -/
def ofSpelling? (text : String) : Option KeyCode :=
  match text.toList with
  | [c] => some (char c)
  | 'F' :: '(' :: digits => some (function (UInt8.ofNat (Scan.ofDigits 10 digits.dropLast)))
  | _ => fixed.find? (·.spelling == text)

theorem toList_spelling_function (n : UInt8) :
    (function n).spelling.toList = 'F' :: '(' :: (Nat.toDigits 10 n.toNat ++ [')']) := by
  simp [spelling, Nat.repr]

theorem ofSpelling?_spelling (code : KeyCode) : ofSpelling? code.spelling = some code := by
  rcases code.cases_fixed with ⟨c, rfl⟩ | ⟨n, rfl⟩ | hfixed
  · simp [ofSpelling?, spelling]
  · rw [ofSpelling?, toList_spelling_function]
    simp only [List.dropLast_concat]
    rw [Scan.ofDigits_toDigits (by decide) (by decide), UInt8.ofNat_toNat]
  · have hall : fixed.all fun code => ofSpelling? code.spelling == some code := by decide +kernel
    simpa using List.all_eq_true.mp hall code hfixed

theorem spelling_injective : Function.Injective spelling := by
  intro a b h
  have hread := ofSpelling?_spelling a
  rw [h, ofSpelling?_spelling] at hread
  exact (Option.some.inj hread).symm

/-- A plus sign stands at the beginning of a spelling or not at all. -/
theorem spelling_plus (code : KeyCode) :
    ∃ c rest, code.spelling.toList = c :: rest ∧ '+' ∉ rest := by
  rcases code.cases_fixed with ⟨c, rfl⟩ | ⟨n, rfl⟩ | hfixed
  · exact ⟨c, [], by simp [spelling]⟩
  · refine ⟨'F', _, toList_spelling_function n, ?_⟩
    have hdigits : '+' ∉ Nat.toDigits 10 n.toNat := fun h =>
      absurd (Scan.isDigit_toDigits h) (by decide)
    simp [hdigits]
  · have hall : fixed.all fun code =>
        code.spelling != "" && !code.spelling.toList.tail.contains '+' := by
      decide +kernel
    have hcode : code.spelling ≠ "" ∧ '+' ∉ code.spelling.toList.tail := by
      simpa using List.all_eq_true.mp hall code hfixed
    obtain ⟨c, rest, hcons⟩ := List.exists_cons_of_ne_nil (mt String.toList_eq_nil_iff.mp hcode.1)
    rw [hcons] at hcode
    exact ⟨c, rest, hcons, hcode.2⟩

theorem symbol?_eq_some {code : KeyCode} {symbol : String} (h : code.symbol? = some symbol) :
    code.spelling = symbol ∨ isEscape symbol ∧ isEscape code.spelling := by
  cases code <;> cases h
  case esc => exact .inr ⟨rfl, rfl⟩
  all_goals exact .inl rfl

end KeyCode

/-! ## Marks of modifiers -/

/-- The names of the modifiers that the text of a stroke shows. -/
def Modifiers.marks (m : Modifiers) : List String :=
  (if m.control then ["Ctrl"] else []) ++ (if m.alt then ["Alt"] else []) ++
    (if m.super then ["Meta"] else []) ++ (if m.shift then ["Shift"] else [])

theorem Modifiers.plus_not_mem_marks {m : Modifiers} {mark : String} (h : mark ∈ m.marks) :
    '+' ∉ mark.toList ∧ mark.toList ≠ [] := by
  have hmark : mark = "Ctrl" ∨ mark = "Alt" ∨ mark = "Meta" ∨ mark = "Shift" := by
    simp only [marks, List.mem_append, List.mem_ite_nil_right, List.mem_singleton] at h
    tauto
  rcases hmark with rfl | rfl | rfl | rfl <;> simp

/-- The marks tell four of the modifiers. -/
theorem Modifiers.marks_eq_iff {m m' : Modifiers} :
    m.marks = m'.marks ↔ m.shift = m'.shift ∧ m.control = m'.control ∧ m.alt = m'.alt ∧
      m.super = m'.super := by
  constructor
  · intro h
    have hmem : ∀ mark, mark ∈ m.marks ↔ mark ∈ m'.marks := by simp [h]
    have hshift := hmem "Shift"
    have hcontrol := hmem "Ctrl"
    have halt := hmem "Alt"
    have hsuper := hmem "Meta"
    simp only [marks, List.mem_append, List.mem_ite_nil_right, List.mem_singleton] at *
    simp_all
  · rintro ⟨hshift, hcontrol, halt, hsuper⟩
    rw [marks, marks, hshift, hcontrol, halt, hsuper]

/-! ## Reading a text -/

namespace Text

/-- Marks with a plus sign behind each, and then a word. -/
def marked (marks : List String) (word : List Char) : List Char :=
  marks.flatMap (fun mark => mark.toList ++ ['+']) ++ word

variable {marks marks' : List String} {word word' : List Char}

theorem marked_cons (mark : String) (marks : List String) (word : List Char) :
    marked (mark :: marks) word = mark.toList ++ '+' :: marked marks word := by
  simp [marked]

/-- Behind the first character of a marked word there is a plus sign. -/
theorem plus_mem_marked {mark : String} (hne : mark.toList ≠ []) {c : Char} {rest : List Char}
    (h : marked (mark :: marks) word = c :: rest) : '+' ∈ rest := by
  obtain ⟨d, ds, hmark⟩ := List.exists_cons_of_ne_nil hne
  rw [marked_cons, hmark, List.cons_append, List.cons_eq_cons] at h
  rw [← h.2]
  simp

theorem append_plus_inj {xs ys as bs : List Char} (hxs : '+' ∉ xs) (hys : '+' ∉ ys)
    (h : xs ++ '+' :: as = ys ++ '+' :: bs) : xs = ys ∧ as = bs := by
  have hfree {zs : List Char} (hzs : '+' ∉ zs) : ∀ c ∈ zs, (c != '+') = true := by
    intro c hc
    simpa using ne_of_mem_of_not_mem hc hzs
  have hfirst := congrArg (List.takeWhile (· != '+')) h
  rw [Scan.takeWhile_append_stop (hfree hxs) (by simp),
    Scan.takeWhile_append_stop (hfree hys) (by simp)] at hfirst
  have hrest := congrArg (List.dropWhile (· != '+')) h
  rw [Scan.dropWhile_append_stop (hfree hxs) (by simp),
    Scan.dropWhile_append_stop (hfree hys) (by simp)] at hrest
  exact ⟨hfirst, List.tail_eq_of_cons_eq hrest⟩

/-- A text can be cut in one way only into marks without a plus sign and a word that has none
behind its first character. -/
theorem marked_inj (hmarks : ∀ mark ∈ marks, '+' ∉ mark.toList ∧ mark.toList ≠ [])
    (hmarks' : ∀ mark ∈ marks', '+' ∉ mark.toList ∧ mark.toList ≠ [])
    (hword : ∃ c rest, word = c :: rest ∧ '+' ∉ rest)
    (hword' : ∃ c rest, word' = c :: rest ∧ '+' ∉ rest)
    (h : marked marks word = marked marks' word') : marks = marks' ∧ word = word' := by
  induction marks generalizing marks' with
  | nil =>
    obtain ⟨c, rest, rfl, hrest⟩ := hword
    cases marks' with
    | nil => exact ⟨rfl, h⟩
    | cons mark' marks' =>
      exact absurd (plus_mem_marked (hmarks' mark' (by simp)).2 h.symm) hrest
  | cons mark marks ih =>
    cases marks' with
    | nil =>
      obtain ⟨c, rest, rfl, hrest⟩ := hword'
      exact absurd (plus_mem_marked (hmarks mark (by simp)).2 h) hrest
    | cons mark' marks' =>
      rw [marked_cons, marked_cons] at h
      rw [List.forall_mem_cons] at hmarks hmarks'
      obtain ⟨hmark, hlater⟩ := append_plus_inj hmarks.1.1 hmarks'.1.1 h
      obtain ⟨rfl, rfl⟩ := ih hmarks.2 hmarks'.2 hlater
      rw [String.toList_inj.mp hmark]
      exact ⟨rfl, rfl⟩

end Text

namespace Stroke

theorem toList_text (s : Stroke) :
    s.text.toList = Text.marked s.modifiers.marks s.code.spelling.toList := by
  obtain ⟨code, m⟩ := s
  cases hcontrol : m.control <;> cases halt : m.alt <;> cases hsuper : m.super <;>
    cases hshift : m.shift <;>
    simp [text, hasControl, hasAlt, hasMeta, hasShift, Text.marked, Modifiers.marks, hcontrol, halt,
      hsuper, hshift]

theorem text_plain (code : KeyCode) : (⟨code, .none⟩ : Stroke).text = code.spelling := by
  simp [text, hasControl, hasAlt, hasMeta, hasShift, Modifiers.none]

theorem text_eq_iff {a b : Stroke} :
    a.text = b.text ↔ a.code = b.code ∧ a.modifiers.marks = b.modifiers.marks := by
  rw [← String.toList_inj, toList_text, toList_text]
  constructor
  · intro h
    obtain ⟨hmarks, hword⟩ := Text.marked_inj (fun _ => Modifiers.plus_not_mem_marks)
      (fun _ => Modifiers.plus_not_mem_marks) a.code.spelling_plus b.code.spelling_plus h
    exact ⟨KeyCode.spelling_injective (String.toList_inj.mp hword), hmarks⟩
  · rintro ⟨hcode, hmarks⟩
    rw [hcode, hmarks]

/-- Two strokes have one text just if they are of one key with the same four modifiers: shift,
control, alt and super. The hyper and the meta modifier do not show. A key that has a symbol has
the same for its text when it is pressed alone, or both are names of the escape key. -/
theorem text_unambiguous (a b : Stroke) :
    (a.text = b.text ↔ a.code = b.code ∧ a.modifiers.shift = b.modifiers.shift ∧
      a.modifiers.control = b.modifiers.control ∧ a.modifiers.alt = b.modifiers.alt ∧
      a.modifiers.super = b.modifiers.super) ∧
    (a.text = b.text ↔ ∃ hyper metaKey, b = ⟨a.code, { a.modifiers with hyper, metaKey }⟩) ∧
    ∀ symbol, a.symbol? = some symbol →
      (⟨a.code, .none⟩ : Stroke).text = symbol ∨
        isEscape symbol ∧ isEscape (⟨a.code, .none⟩ : Stroke).text := by
  have hsame : a.text = b.text ↔ a.code = b.code ∧ a.modifiers.shift = b.modifiers.shift ∧
      a.modifiers.control = b.modifiers.control ∧ a.modifiers.alt = b.modifiers.alt ∧
      a.modifiers.super = b.modifiers.super := by
    rw [text_eq_iff, Modifiers.marks_eq_iff]
  refine ⟨hsame, ?_, fun symbol h => ?_⟩
  · rw [hsame]
    obtain ⟨code, m⟩ := a
    obtain ⟨code', m'⟩ := b
    constructor
    · rintro ⟨rfl, hshift, hcontrol, halt, hsuper⟩
      refine ⟨m'.hyper, m'.metaKey, ?_⟩
      cases m
      cases m'
      simp_all
    · rintro ⟨hyper, metaKey, h⟩
      cases h
      exact ⟨rfl, rfl, rfl, rfl, rfl⟩
  · rw [symbol?] at h
    split at h
    · cases h
    · rw [text_plain]
      exact KeyCode.symbol?_eq_some h

example : (⟨.char '+', .onlyControl⟩ : Stroke).text = "Ctrl++" := by decide

end Stroke
end ModalKeys
