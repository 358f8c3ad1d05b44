import Mathlib.Data.List.TakeWhile
import ModalKeys.Platform
import ModalKeys.Proofs.Text.LetterCase
import ModalKeys.Proofs.Text.Scan
import ModalKeys.Session.State

/-! The names of modes and platforms. A text names one if it holds, between blanks, one of its names
in ASCII letters of either case; everything else is refused with the text as it was given. -/
namespace ModalKeys

namespace Text

/-- The text is the name between blanks, its letters in either case. -/
inductive Spells (name : String) : List Char → Prop where
  | between {lead word trail : List Char} (before : ∀ c ∈ lead, isBlank c)
      (letters : List.Forall₂ SameLetter word name.toList) (after : ∀ c ∈ trail, isBlank c) :
      Spells name (lead ++ (word ++ trail))

variable {cs lead word trail : List Char} {name : String}

/-! ## Trimming -/

theorem exists_trim (cs : List Char) :
    ∃ lead trail, (∀ c ∈ lead, isBlank c) ∧ (∀ c ∈ trail, isBlank c) ∧
      cs = lead ++ (trim cs ++ trail) := by
  let lead := cs.takeWhile isBlank
  let trail := ((cs.dropWhile isBlank).reverse.takeWhile isBlank).reverse
  have hlead : ∀ c ∈ lead, isBlank c := fun c hc => List.mem_takeWhile_imp hc
  have htrail : ∀ c ∈ trail, isBlank c := fun c hc =>
    List.mem_takeWhile_imp (List.mem_reverse.mp hc)
  refine ⟨lead, trail, hlead, htrail, ?_⟩
  rw [trim, ← List.reverse_append, List.takeWhile_append_dropWhile, List.reverse_reverse,
    List.takeWhile_append_dropWhile]

theorem trim_solid (hlead : ∀ c ∈ lead, isBlank c) (htrail : ∀ c ∈ trail, isBlank c)
    (hne : word ≠ []) (hsolid : ∀ c ∈ word, isBlank c = false) :
    trim (lead ++ (word ++ trail)) = word := by
  have hfirst : ∀ c ∈ (word ++ trail).head?, isBlank c = false := by
    intro c hc
    rw [List.head?_append_of_ne_nil _ hne] at hc
    exact hsolid c (List.mem_of_mem_head? hc)
  have hlast : ∀ c ∈ word.reverse.head?, isBlank c = false := fun c hc =>
    hsolid c (List.mem_reverse.mp (List.mem_of_mem_head? hc))
  have hends : (word ++ trail).reverse.dropWhile isBlank = word.reverse := by
    rw [List.reverse_append]
    exact Scan.dropWhile_append_stop (by simpa using htrail) hlast
  rw [trim, Scan.dropWhile_append_stop hlead hfirst, hends, List.reverse_reverse]

/-! ## Folding -/

theorem ascii_of_letters {w : List Char} (hw : ∀ d ∈ w, d.isLower)
    (h : List.Forall₂ SameLetter cs w) : ∀ c ∈ cs, 65 ≤ c.toNat ∧ c.toNat ≤ 122 := by
  induction h with
  | nil => simp
  | cons hsame _ ih =>
    rw [List.forall_mem_cons] at hw ⊢
    exact ⟨hsame.ascii hw.1, ih hw.2⟩

theorem blank_free {w : List Char} (hw : ∀ d ∈ w, d.isLower) (h : List.Forall₂ SameLetter cs w) :
    ∀ c ∈ cs, isBlank c = false := by
  intro c hc
  have hrange := ascii_of_letters hw h c hc
  simp only [isBlank, Bool.or_eq_false_iff, Bool.and_eq_false_iff, decide_eq_false_iff_not,
    beq_eq_false_iff_ne]
  omega

/-- A way to bring letters into one case, such that just the spellings of a name turn into it, finds
the names between blanks once the blanks are trimmed off. -/
theorem fold_trim_mem_iff {fold : List Char → List Char} {names : List String}
    (hnames : ∀ name ∈ names, name ≠ "" ∧ ∀ d ∈ name.toList, d.isLower)
    (hfold : ∀ name ∈ names, ∀ cs, fold cs = name.toList ↔
      List.Forall₂ SameLetter cs name.toList) :
    String.ofList (fold (trim cs)) ∈ names ↔ ∃ name ∈ names, Spells name cs := by
  constructor
  · intro hmem
    refine ⟨_, hmem, ?_⟩
    have hletters := (hfold _ hmem (trim cs)).mp (by simp)
    obtain ⟨lead, trail, hlead, htrail, hcs⟩ := exists_trim cs
    generalize trim cs = word at hletters hcs ⊢
    rw [hcs]
    exact .between hlead hletters htrail
  · rintro ⟨name, hmem, @⟨lead, word, trail, hlead, hletters, htrail⟩⟩
    obtain ⟨hne, hlower⟩ := hnames name hmem
    have hword : word ≠ [] := by
      rintro rfl
      exact hne (by simpa using hletters)
    rw [trim_solid hlead htrail hword (blank_free hlower hletters),
      (hfold name hmem word).mpr hletters, String.ofList_toList]
    exact hmem

/-- A spelling has no character outside ASCII but blanks. -/
theorem Spells.ascii (hname : ∀ d ∈ name.toList, d.isLower) (h : Spells name cs) :
    ∀ c ∈ cs, isBlank c ∨ c.toNat < 0x80 := by
  obtain ⟨hlead, hletters, htrail⟩ := h
  intro c hc
  rw [List.mem_append, List.mem_append] at hc
  rcases hc with hc | hc | hc
  · exact .inl (hlead c hc)
  · exact .inr (Nat.lt_of_le_of_lt (ascii_of_letters hname hletters c hc).2 (by decide))
  · exact .inl (htrail c hc)

end Text

/-! ## Modes and platforms -/

/-- The names that a mode goes by. -/
def Mode.names : Mode → List String
  | off => ["off"]
  | command => ["command", "normal"]
  | insert => ["insert"]
  | visual => ["visual"]

def PlatformSetting.names : PlatformSetting → List String
  | auto => ["auto"]
  | mac => ["mac", "macos"]
  | other => ["other"]

/-- The text spells one of the mode's names. -/
def Mode.NamedBy (mode : Mode) (text : String) : Prop :=
  ∃ name ∈ mode.names, Text.Spells name text.toList

def PlatformSetting.NamedBy (setting : PlatformSetting) (text : String) : Prop :=
  ∃ name ∈ setting.names, Text.Spells name text.toList

namespace Mode

variable {name text : String} {mode : Mode}

theorem names_plain (h : name ∈ mode.names) : name ≠ "" ∧ Text.IsPlain name.toList := by
  have hall : mode.names.all fun name => name != "" && name.toList.all fun d =>
      d.isLower && d != 'k' := by
    cases mode <;> rfl
  simpa [Text.IsPlain] using List.all_eq_true.mp hall name h

theorem ofName?_eq_some_iff : ofName? name = some mode ↔ name ∈ mode.names := by
  constructor
  · intro h
    unfold ofName? at h
    split at h <;> cases h <;> simp [names]
  · intro h
    cases mode <;> simp only [names, List.mem_cons, List.not_mem_nil, or_false] at h <;>
      rcases h with rfl | rfl <;> rfl

theorem parse_eq_ok_iff : parse text = .ok mode ↔ mode.NamedBy text := by
  have hparse : parse text = .ok mode ↔
      String.ofList (Text.lowercase (Text.trim text.toList)) ∈ mode.names := by
    rw [← ofName?_eq_some_iff, parse]
    split <;> simp_all
  rw [hparse]
  exact Text.fold_trim_mem_iff
    (fun name h => ⟨(names_plain h).1, fun d hd => ((names_plain h).2 d hd).1⟩)
    fun name h cs => Text.lowercase_eq_iff (names_plain h).2

theorem parse_eq_error_iff {e : UnknownMode} :
    parse text = .error e ↔ e = ⟨text⟩ ∧ ∀ mode : Mode, ¬ mode.NamedBy text := by
  simp only [← parse_eq_ok_iff]
  rw [parse]
  split <;> simp [eq_comm]

end Mode

namespace PlatformSetting

variable {name text : String} {setting : PlatformSetting}

theorem names_small (h : name ∈ setting.names) : name ≠ "" ∧ ∀ d ∈ name.toList, d.isLower := by
  have hall : setting.names.all fun name => name != "" && name.toList.all Char.isLower := by
    cases setting <;> rfl
  simpa using List.all_eq_true.mp hall name h

theorem ofName?_eq_some_iff : ofName? name = some setting ↔ name ∈ setting.names := by
  constructor
  · intro h
    unfold ofName? at h
    split at h <;> cases h <;> simp [names]
  · intro h
    cases setting <;> simp only [names, List.mem_cons, List.not_mem_nil, or_false] at h <;>
      rcases h with rfl | rfl <;> rfl

theorem parse_eq_ok_iff : parse text = .ok setting ↔ setting.NamedBy text := by
  have hparse : parse text = .ok setting ↔
      String.ofList ((Text.trim text.toList).map Char.toLower) ∈ setting.names := by
    rw [← ofName?_eq_some_iff, parse]
    split <;> simp_all
  rw [hparse]
  exact Text.fold_trim_mem_iff (fun name => names_small)
    fun name h cs => Text.map_toLower_eq_iff (names_small h).2

theorem parse_eq_error_iff {e : InvalidValue} :
    parse text = .error e ↔
      e = ⟨"platform", text⟩ ∧ ∀ setting : PlatformSetting, ¬ setting.NamedBy text := by
  simp only [← parse_eq_ok_iff]
  rw [parse]
  split <;> simp [eq_comm]

end PlatformSetting

theorem State.setModeNamed_cases (s : State) (text : String) :
    (∃ mode : Mode, mode.NamedBy text ∧ s.setModeNamed text = (true, s.setMode mode)) ∨
      (∀ mode : Mode, ¬ mode.NamedBy text) ∧ s.setModeNamed text = (false, s) := by
  rw [setModeNamed]
  cases h : Mode.parse text with
  | ok mode => exact .inl ⟨mode, Mode.parse_eq_ok_iff.mp h, rfl⟩
  | error e => exact .inr ⟨(Mode.parse_eq_error_iff.mp h).2, rfl⟩

/-- A text is read as a mode, or as a platform, just if it spells one of its names between blanks,
in ASCII letters of either case; although a mode's name is lower-cased by the rules of Unicode, no
character outside ASCII takes a letter's place. Any other text is refused as it was given, its
blanks included. A session asked for a mode by name sets and announces the mode that is so named,
and stays as it is if there is none. -/
theorem accepts_names (text : String) :
    (∀ mode, Mode.parse text = .ok mode ↔ mode.NamedBy text) ∧
    (∀ e, Mode.parse text = .error e ↔ e = ⟨text⟩ ∧ ∀ mode : Mode, ¬ mode.NamedBy text) ∧
    (∀ mode, Mode.parse text = .ok mode →
      ∀ c ∈ text.toList, Text.isBlank c ∨ c.toNat < 0x80) ∧
    (∀ setting, PlatformSetting.parse text = .ok setting ↔ setting.NamedBy text) ∧
    (∀ e, PlatformSetting.parse text = .error e ↔
      e = ⟨"platform", text⟩ ∧ ∀ setting : PlatformSetting, ¬ setting.NamedBy text) ∧
    ∀ s : State,
      ((s.setModeNamed text).1 = true ↔ ∃ mode : Mode, mode.NamedBy text) ∧
      (∀ mode : Mode, mode.NamedBy text →
        (s.setModeNamed text).2 = { s with mode, announced := mode :: s.announced }) ∧
      ((∀ mode : Mode, ¬ mode.NamedBy text) → (s.setModeNamed text).2 = s) := by
  refine ⟨fun _ => Mode.parse_eq_ok_iff, fun _ => Mode.parse_eq_error_iff, fun mode hmode => ?_,
    fun _ => PlatformSetting.parse_eq_ok_iff, fun _ => PlatformSetting.parse_eq_error_iff,
    fun s => ?_⟩
  · obtain ⟨name, hname, hspells⟩ := Mode.parse_eq_ok_iff.mp hmode
    exact hspells.ascii fun d hd => ((Mode.names_plain hname).2 d hd).1
  · rcases s.setModeNamed_cases text with ⟨mode, hmode, hset⟩ | ⟨hnone, hset⟩
    · rw [hset]
      refine ⟨⟨fun _ => ⟨mode, hmode⟩, fun _ => rfl⟩, fun mode' hmode' => ?_,
        fun hnone => absurd hmode (hnone mode)⟩
      have hsame := (Mode.parse_eq_ok_iff.mpr hmode).symm.trans (Mode.parse_eq_ok_iff.mpr hmode')
      obtain rfl : mode = mode' := Except.ok.inj hsame
      rfl
    · rw [hset]
      exact ⟨⟨nofun, fun ⟨mode, hmode⟩ => absurd hmode (hnone mode)⟩,
        fun mode hmode => absurd hmode (hnone mode), fun _ => rfl⟩

example : Mode.parse "\u2003NormaL\n" = .ok .command := by decide

/-- The dotted capital I becomes an i and a dot above. -/
example : Mode.parse " \u0130nsert" = .error ⟨" \u0130nsert"⟩ := by decide

end ModalKeys
