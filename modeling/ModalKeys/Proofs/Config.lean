import ModalKeys.Config
import ModalKeys.Proofs.Toml.Line
import ModalKeys.Proofs.Toml.Range
import Mathlib.Data.List.Nodup
import Mathlib.Tactic.SplitIfs

/-! Settings are read back from their lines, whichever of them a text has and in whatever order; the
time limit is bounded by what the notation of numbers allows, and no text gives one outside. -/
namespace ModalKeys.Config

open Toml (Value Entries WritesScalar WritesPair Statement)

inductive Setting where
  | prefixTimeout | platform | startMode | interceptTextFields
  deriving DecidableEq, Repr

namespace Setting

def all : List Setting := [prefixTimeout, platform, startMode, interceptTextFields]

def name : Setting → String
  | prefixTimeout => "prefix_timeout_ms"
  | platform => "platform"
  | startMode => "start_mode"
  | interceptTextFields => "intercept_text_fields"

/-- How a setting's value is written. -/
def text (c : Config) : Setting → String
  | prefixTimeout => c.prefixTimeout.repr
  | platform => "\"" ++ c.platform.name ++ "\""
  | startMode => "\"" ++ c.startMode.name ++ "\""
  | interceptTextFields => if c.interceptTextFields then "true" else "false"

def line (c : Config) (s : Setting) : String := s.name ++ " = " ++ s.text c

def value (c : Config) : Setting → Value
  | prefixTimeout => .integer c.prefixTimeout
  | platform => .string c.platform.name
  | startMode => .string c.startMode.name
  | interceptTextFields => .bool c.interceptTextFields

end Setting

/-- These settings of a configuration, and the defaults for the others. -/
def only (c : Config) (settings : List Setting) : Config :=
  let defaults : Config := {}
  { prefixTimeout := if .prefixTimeout ∈ settings then c.prefixTimeout else defaults.prefixTimeout
    platform := if .platform ∈ settings then c.platform else defaults.platform
    startMode := if .startMode ∈ settings then c.startMode else defaults.startMode
    interceptTextFields :=
      if .interceptTextFields ∈ settings then c.interceptTextFields
      else defaults.interceptTextFields }

variable (c : Config) {settings : List Setting}

theorem lines_eq : c.lines = Setting.all.map (Setting.line c) := by
  simp [lines, Setting.all, Setting.line, Setting.name, Setting.text, ← String.append_assoc]

@[simp] theorem only_all : c.only Setting.all = c := rfl

theorem only_prefixTimeout : (c.only settings).prefixTimeout =
    if .prefixTimeout ∈ settings then c.prefixTimeout else 500 := rfl

theorem one_le_only (h : .prefixTimeout ∈ settings → 1 ≤ c.prefixTimeout) :
    1 ≤ (c.only settings).prefixTimeout := by
  rw [only_prefixTimeout]
  split_ifs with hmem
  · exact h hmem
  · decide

/-! ## From the text to the entries -/

theorem toList_line (s : Setting) :
    (s.line c).toList = s.name.toList ++ ' ' :: '=' :: ' ' :: (s.text c).toList := by
  simp [Setting.line]

theorem Setting.bare_name (s : Setting) :
    s.name.toList ≠ [] ∧ ∀ ch ∈ s.name.toList, Toml.isBare ch := by
  rw [← List.all_eq_true]
  cases s <;> decide

theorem writesScalar_quoted {name : String} (hne : name.toList ≠ [])
    (h : ∀ ch ∈ name.toList, Toml.isBasic ch) :
    WritesScalar (.string name) ("\"" ++ name ++ "\"").toList := by
  have htext : ("\"" ++ name ++ "\"").toList = '"' :: (name.toList ++ ['"']) := by simp
  have hquoted := WritesScalar.string hne h
  rwa [String.ofList_toList, ← htext] at hquoted

theorem writesScalar_text {s : Setting} (h : s = .prefixTimeout → c.prefixTimeout < 2 ^ 63) :
    WritesScalar (s.value c) (s.text c).toList := by
  cases s with
  | prefixTimeout =>
    rw [Setting.text, Nat.toList_repr]
    exact .number (h rfl)
  | platform =>
    refine writesScalar_quoted ?_ (List.all_eq_true.mp ?_) <;> cases c.platform <;> decide
  | startMode =>
    refine writesScalar_quoted ?_ (List.all_eq_true.mp ?_) <;> cases c.startMode <;> decide
  | interceptTextFields =>
    rw [Setting.text, Setting.value]
    cases c.interceptTextFields with
    | true => exact .true
    | false => exact .false

/-- The statement that a line makes. -/
def statement (s : Setting) : Statement := .pair [s.name] (s.value c)

theorem writesPair_line {s : Setting} (h : s = .prefixTimeout → c.prefixTimeout < 2 ^ 63) :
    WritesPair (some (c.statement s)) ((s.line c).toList ++ ['\n']) := by
  obtain ⟨hne, hbare⟩ := Setting.bare_name s
  have hpair := WritesPair.line hne hbare (writesScalar_text c h)
  rwa [String.ofList_toList, ← List.cons_append, ← List.cons_append, ← List.cons_append,
    ← List.append_assoc, ← toList_line] at hpair

theorem toList_unlines (lines : List String) :
    (unlines lines).toList = lines.flatMap fun line => line.toList ++ ['\n'] := by
  simp [unlines, String.toList_join, List.flatMap_map]

theorem toList_unlines_settings (settings : List Setting) :
    (unlines (settings.map (Setting.line c))).toList =
      settings.flatMap fun s => (s.line c).toList ++ ['\n'] := by
  rw [toList_unlines, List.flatMap_map]

theorem concat_lines (h : .prefixTimeout ∈ settings → c.prefixTimeout < 2 ^ 63) :
    Concat WritesPair (settings.map fun s => some (c.statement s))
      (settings.flatMap fun s => (s.line c).toList ++ ['\n']) := by
  induction settings with
  | nil => exact .nil
  | cons s settings ih =>
    rw [List.map_cons, List.flatMap_cons]
    exact .cons (writesPair_line c fun hs => h (by simp [hs])) (ih fun hs => h (by simp [hs]))

/-- The entries of the settings, in their order. -/
def entries (settings : List Setting) : Entries := settings.map fun s => (s.name, s.value c)

theorem Setting.name_injective : Function.Injective Setting.name := by
  intro s t
  cases s <;> cases t <;> simp [Setting.name]

theorem parse?_lines (hnodup : settings.Nodup)
    (h : .prefixTimeout ∈ settings → c.prefixTimeout < 2 ^ 63) :
    Toml.parse? (unlines (settings.map (Setting.line c))) = some (c.entries settings) := by
  have hread := Toml.whole_statements (concat_lines c h)
  have hnames : ((c.entries settings).map Prod.fst).Nodup := by
    rw [entries, List.map_map]
    exact List.Nodup.map Setting.name_injective hnodup
  have hentries := Toml.Document.ofStatements?_pairs hnames
  rw [entries, List.map_map] at hentries
  rw [Toml.parse?, toList_unlines_settings, hread, Option.bind_some, List.filterMap_map]
  simpa [Function.comp_def, statement, entries] using hentries

/-- A time limit that is too large spoils the text, wherever its line stands. -/
theorem parse?_lines_large (h : .prefixTimeout ∈ settings) (hlarge : 2 ^ 63 ≤ c.prefixTimeout)
    (hnodup : settings.Nodup) :
    Toml.parse? (unlines (settings.map (Setting.line c))) = none := by
  obtain ⟨before, after, rfl⟩ := List.append_of_mem h
  have hbefore : .prefixTimeout ∉ before := by
    intro hmem
    rw [List.nodup_append] at hnodup
    exact hnodup.2.2 _ hmem _ (by simp) rfl
  obtain ⟨hne, hbare⟩ := Setting.bare_name .prefixTimeout
  have hstop := Toml.line_large hne hbare hlarge
    (after.flatMap fun s => (s.line c).toList ++ ['\n'])
  have hbegins := Toml.beginsBare_append hne hbare (' ' :: '=' :: ' ' ::
    (Nat.toDigits 10 c.prefixTimeout ++ '\n' ::
      after.flatMap fun s => (s.line c).toList ++ ['\n']))
  have hwhole := Toml.whole_statements_stop
    (concat_lines c fun hmem => absurd hmem hbefore) hbegins (by simp) hstop
  have htext : (Setting.text c .prefixTimeout).toList = Nat.toDigits 10 c.prefixTimeout :=
    Nat.toList_repr
  rw [Toml.parse?, toList_unlines_settings, List.flatMap_append, List.flatMap_cons, toList_line,
    htext]
  simp only [List.append_assoc, List.cons_append, List.nil_append]
  rw [hwhole, Option.bind_none]

/-! ## From the entries to the settings -/

theorem lookup_entries (s : Setting) :
    (c.entries settings).lookup s.name = if s ∈ settings then some (s.value c) else none := by
  induction settings with
  | nil => rfl
  | cons t settings ih =>
    rw [entries] at ih
    rw [entries, List.map_cons, List.lookup_cons, ih]
    by_cases hst : s = t
    · simp [hst]
    · have hname : (s.name == t.name) = false := by
        simpa using Setting.name_injective.ne hst
      simp [hname, hst]

theorem setting_entries {α : Type} (settings : List Setting) (s : Setting) (default : α) {a : α}
    {read : Value → Option α} (hread : read (s.value c) = some a) :
    setting (c.entries settings) s.name default read =
      .ok (if s ∈ settings then a else default) := by
  rw [setting, lookup_entries]
  split_ifs <;> simp [hread]

theorem readTimeout_natCast (n : Nat) : readTimeout (.integer n) = some n := by
  simp [readTimeout]

theorem readPlatform_name (p : PlatformSetting) : readPlatform (.string p.name) = some p := by
  cases p <;> rfl

theorem readMode_name (m : Mode) : readMode (.string m.name) = some m := by
  cases m <;> rfl

theorem bind_eq_ok_iff {α β : Type} {x : Except ConfigError α} {f : α → Except ConfigError β}
    {b : β} : x >>= f = .ok b ↔ ∃ a, x = .ok a ∧ f a = .ok b := by
  cases x with
  | error e => simp [bind, Except.bind]
  | ok a => simp [bind, Except.bind]

/-- A configuration is read setting by setting. -/
theorem ofEntries_eq_ok_iff {entries : Entries} : ofEntries entries = .ok c ↔
    setting entries "prefix_timeout_ms" ({} : Config).prefixTimeout readTimeout =
      .ok c.prefixTimeout ∧
    setting entries "platform" ({} : Config).platform readPlatform = .ok c.platform ∧
    setting entries "start_mode" ({} : Config).startMode readMode = .ok c.startMode ∧
    setting entries "intercept_text_fields" ({} : Config).interceptTextFields readBool =
      .ok c.interceptTextFields := by
  simp only [ofEntries, bind_eq_ok_iff]
  constructor
  · rintro ⟨timeout, htimeout, platform, hplatform, mode, hmode, fields, hfields, hc⟩
    cases hc
    exact ⟨htimeout, hplatform, hmode, hfields⟩
  · rintro ⟨htimeout, hplatform, hmode, hfields⟩
    exact ⟨_, htimeout, _, hplatform, _, hmode, _, hfields, rfl⟩

theorem ofEntries_entries : ofEntries (c.entries settings) = .ok (c.only settings) :=
  (ofEntries_eq_ok_iff _).mpr
    ⟨c.setting_entries settings .prefixTimeout _ (readTimeout_natCast c.prefixTimeout),
      c.setting_entries settings .platform _ (readPlatform_name c.platform),
      c.setting_entries settings .startMode _ (readMode_name c.startMode),
      c.setting_entries settings .interceptTextFields _ rfl⟩

/-! ## The settings that a text gives -/

theorem parse_lines (hnodup : settings.Nodup)
    (h : .prefixTimeout ∈ settings → c.prefixTimeout < 2 ^ 63) :
    parse (unlines (settings.map (Setting.line c))) = validate (c.only settings) := by
  rw [parse, parse?_lines c hnodup h]
  show (ofEntries _).bind validate = _
  rw [ofEntries_entries]
  rfl

theorem parse_toToml (h : c.prefixTimeout < 2 ^ 63) : parse c.toToml = validate c := by
  rw [toToml, lines_eq, parse_lines c (by decide) fun _ => h, only_all]

theorem parse_toToml_large (h : 2 ^ 63 ≤ c.prefixTimeout) :
    parse c.toToml = .error (.parse "malformed text") := by
  rw [toToml, lines_eq, parse, parse?_lines_large c (by decide) h (by decide)]

theorem validate_eq_ok_iff {c d : Config} : validate c = .ok d ↔ c = d ∧ 1 ≤ c.prefixTimeout := by
  rw [validate]
  split_ifs with h
  · simp [h]
  · simp [Nat.one_le_iff_ne_zero, h]

/-- A setting is its default or was read from a value of the table. -/
theorem setting_eq_ok {α : Type} {entries : Entries} {name : String} {default a : α}
    {read : Value → Option α} (h : setting entries name default read = .ok a) :
    a = default ∨ ∃ v, entries.lookup name = some v ∧ read v = some a := by
  rw [setting] at h
  split at h
  · exact .inl (Except.ok.inj h).symm
  · next v hlookup =>
    split at h
    · next b hread =>
      cases h
      exact .inr ⟨v, hlookup, hread⟩
    · cases h

theorem readTimeout_lt {v : Value} {n : Nat} (hv : v.InRange) (h : readTimeout v = some n) :
    n < 2 ^ 63 := by
  cases v with
  | integer m =>
    obtain ⟨hnonneg, rfl⟩ : 0 ≤ m ∧ m.toNat = n := by simpa [readTimeout] using h
    have hlt : m < 2 ^ 63 := hv.2
    omega
  | _ => cases h

theorem ofEntries_lt {entries : Entries} (h : Entries.All Value.InRange entries)
    (hread : ofEntries entries = .ok c) : c.prefixTimeout < 2 ^ 63 := by
  obtain ⟨htimeout, -⟩ := (ofEntries_eq_ok_iff c).mp hread
  obtain hdefault | ⟨v, hlookup, hv⟩ := setting_eq_ok htimeout
  · rw [hdefault]
    decide
  · exact readTimeout_lt (h.of_lookup hlookup) hv

theorem parse_bounds {text : String} (h : parse text = .ok c) :
    1 ≤ c.prefixTimeout ∧ c.prefixTimeout < 2 ^ 63 := by
  rw [parse] at h
  split at h
  · cases h
  · next entries hentries =>
    obtain ⟨d, hread, hvalid⟩ := bind_eq_ok_iff.mp h
    obtain ⟨rfl, hpos⟩ := validate_eq_ok_iff.mp hvalid
    exact ⟨hpos, ofEntries_lt d (Toml.parse?_inRange hentries) hread⟩

/-- The text of a configuration gives the configuration back when its time limit is one, and says
what is wrong with it otherwise; some of its lines, however they are ordered, give those settings
and the defaults. Whatever a text gives can be written down and read back. -/
theorem reads_back :
    (1 ≤ c.prefixTimeout → c.prefixTimeout < 2 ^ 63 → parse c.toToml = .ok c) ∧
    (c.prefixTimeout = 0 → parse c.toToml = .error (.invalid ⟨"prefix_timeout_ms", "0"⟩)) ∧
    (2 ^ 63 ≤ c.prefixTimeout → ∃ detail, parse c.toToml = .error (.parse detail)) ∧
    (∀ settings : List Setting, settings.Nodup →
      (.prefixTimeout ∈ settings → 1 ≤ c.prefixTimeout ∧ c.prefixTimeout < 2 ^ 63) →
      parse (unlines (settings.map (Setting.line c))) = .ok (c.only settings)) ∧
    (∀ text, parse text = .ok c →
      1 ≤ c.prefixTimeout ∧ c.prefixTimeout < 2 ^ 63 ∧ parse c.toToml = .ok c) := by
  have hvalid : 1 ≤ c.prefixTimeout → c.prefixTimeout < 2 ^ 63 → parse c.toToml = .ok c := by
    intro hpos hlt
    rw [parse_toToml c hlt, validate_eq_ok_iff]
    exact ⟨rfl, hpos⟩
  refine ⟨hvalid, ?_, ?_, ?_, ?_⟩
  · intro hzero
    rw [parse_toToml c (by omega), validate, if_pos hzero, hzero]
    rfl
  · intro hlarge
    exact ⟨_, parse_toToml_large c hlarge⟩
  · intro settings hnodup hbounds
    rw [parse_lines c hnodup fun h => (hbounds h).2, validate_eq_ok_iff]
    exact ⟨rfl, c.one_le_only fun h => (hbounds h).1⟩
  · intro text htext
    obtain ⟨hpos, hlt⟩ := parse_bounds c htext
    exact ⟨hpos, hlt, hvalid hpos hlt⟩

/-- Two of the lines, the time limit behind the mode and the others left to their defaults; and the
longest time limit that is read back. -/
theorem reads_back_reordered :
    parse (unlines ["start_mode = \"visual\"", "prefix_timeout_ms = 250"]) =
      .ok ⟨250, .auto, .visual, false⟩ ∧
    parse (⟨2 ^ 63 - 1, .other, .off, false⟩ : Config).toToml =
      .ok ⟨2 ^ 63 - 1, .other, .off, false⟩ := by
  let c : Config := ⟨250, .mac, .visual, true⟩
  have hlines : ([.startMode, .prefixTimeout] : List Setting).map (Setting.line c) =
      ["start_mode = \"visual\"", "prefix_timeout_ms = 250"] := by decide
  obtain ⟨-, -, -, hsome, -⟩ := reads_back c
  have hread := hsome [.startMode, .prefixTimeout] (by decide) fun _ => ⟨by decide, by decide⟩
  rw [hlines] at hread
  exact ⟨hread, (reads_back ⟨2 ^ 63 - 1, .other, .off, false⟩).1 (by simp) (by simp)⟩

end ModalKeys.Config
