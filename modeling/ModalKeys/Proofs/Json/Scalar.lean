import ModalKeys.Proofs.Json.Spelling

/-! The readers of strings and numbers read every text of one. A string tells where it ends; a
number ends where the text cannot go on with it. -/
namespace ModalKeys.Json

open Scan

variable (rest : List Char)

/-! ## Strings -/

theorem hex_append_unit {n : Nat} {ds : List Char} (h : WritesUnit n ds) :
    hex 4 (ds ++ rest) = some (n, rest) := by
  have hhex := hex_append rest h.digit
  rwa [h.length, h.number] at hhex

theorem stringChar_backslash : stringChar ('\\' :: rest) = escape rest := by
  rw [stringChar, orElse_right _ (one_of_not_mem _ (by decide))]
  simp

theorem escape_short {letter c : Char} (h : (letter, c) ∈ shortEscapes) :
    escape (letter :: rest) = some (c, rest) := by
  simp only [shortEscapes, List.mem_cons, Prod.mk.injEq, List.not_mem_nil, or_false] at h
  rcases h with h | h | h | h | h | h | h | h <;> (obtain ⟨rfl, rfl⟩ := h; rfl)

theorem escape_unicode : escape ('u' :: rest) = unicodeEscape rest := rfl

theorem unicodeEscape_unit {n : Nat} {ds : List Char} (h : WritesUnit n ds)
    (hwhole : n < 0xD800 ∨ 0xE000 ≤ n) :
    unicodeEscape (ds ++ rest) = some (Char.ofNat n, rest) := by
  simp [unicodeEscape, hex_append_unit rest h, hwhole]

theorem trailUnit_append {n : Nat} {ds : List Char} (h : WritesUnit n ds)
    (htrail : 0xDC00 ≤ n ∧ n < 0xE000) :
    trailUnit ('\\' :: 'u' :: (ds ++ rest)) = some (n, rest) := by
  have hword : word ['\\', 'u'] ('\\' :: 'u' :: (ds ++ rest)) = some ((), ds ++ rest) :=
    word_append _ ['\\', 'u']
  simp [trailUnit, hword, hex_append_unit rest h, htrail]

theorem unicodeEscape_pair {n n' : Nat} {ds ds' : List Char} (h : WritesUnit n ds)
    (h' : WritesUnit n' ds') (hlead : 0xD800 ≤ n ∧ n < 0xDC00)
    (htrail : 0xDC00 ≤ n' ∧ n' < 0xE000) :
    unicodeEscape (ds ++ '\\' :: 'u' :: (ds' ++ rest)) =
      some (Char.ofNat (0x10000 + (n - 0xD800) * 0x400 + (n' - 0xDC00)), rest) := by
  have hhalf : ¬ (n < 0xD800 ∨ 0xE000 ≤ n) := by omega
  simp [unicodeEscape, hex_append_unit _ h, hhalf, hlead, trailUnit_append rest h' htrail]

theorem stringChar_append {c : Char} {cs : List Char} (h : WritesChar c cs) :
    stringChar (cs ++ rest) = some (c, rest) := by
  cases h with
  | plain quote backslash graphic =>
    exact orElse_left _ (one_of_mem _ (by simp [quote, backslash, graphic]))
  | short escape =>
    rw [List.cons_append, stringChar_backslash]
    exact escape_short rest escape
  | unit digits whole =>
    rw [List.cons_append, stringChar_backslash, List.cons_append, escape_unicode]
    exact unicodeEscape_unit rest digits whole
  | pair lead trail isLead isTrail =>
    rw [List.cons_append, stringChar_backslash, List.cons_append, escape_unicode,
      List.append_assoc]
    exact unicodeEscape_pair rest lead trail isLead isTrail

theorem stringChar_quote : stringChar ('"' :: rest) = none := by
  rw [stringChar, orElse_right _ (one_of_not_mem _ (by decide))]
  simp [char_ne]

theorem WritesChar.ne_nil {c : Char} {cs : List Char} (h : WritesChar c cs) : cs ≠ [] := by
  cases h <;> simp

/-- Every text of a string is read as that string. -/
theorem string_append {s : String} {cs : List Char} (h : WritesString s cs) :
    string (cs ++ rest) = some (s, rest) := by
  obtain ⟨chars⟩ := h
  -- a character tells where it ends, whatever comes behind it
  have hread {c : Char} {cs rest : List Char} (h : WritesChar c cs) (_ : True) :
      stringChar (cs ++ rest) = some (c, rest) := stringChar_append rest h
  have hmany := many_concat hread (fun h => ⟨h.ne_nil, fun _ => trivial⟩) trivial
    (stringChar_quote rest) chars
  simp [string, hmany]

theorem string_ne {c : Char} (h : c ≠ '"') : string (c :: rest) = none := by
  simp [string, char_ne rest h]

/-! ## Numbers -/

/-- What can stand behind a value. -/
def endsValue (c : Char) : Bool := isSpace c || c == ',' || c == ']' || c == '\x7d'

/-- Nothing in front that a value could go on with. -/
def Ended (cs : List Char) : Prop := ∀ c ∈ cs.head?, endsValue c

theorem endsValue_cases {c : Char} (h : endsValue c) :
    c = ' ' ∨ c = '\t' ∨ c = '\n' ∨ c = '\r' ∨ c = ',' ∨ c = ']' ∨ c = '\x7d' := by
  simpa [endsValue, isSpace, or_assoc] using h

variable {rest}

theorem wholePart_append {ds : List Char} (h : WritesWhole ds)
    (hstop : ∀ c ∈ rest.head?, c.isDigit = false) : wholePart (ds ++ rest) = some (ds, rest) := by
  cases h with
  | zero => exact orElse_left _ (by simp)
  | @digits c ds first others =>
    have hzero : c ≠ '0' := by
      rintro rfl
      exact absurd first.1 (by decide)
    rw [wholePart, orElse_right _ (by simp [char_ne _ hzero])]
    simp [one_of_mem, first, span_append others hstop]

theorem fractionPart_append {fraction cs : List Char} (h : WritesFraction fraction cs)
    (hstop : ∀ c ∈ rest.head?, c.isDigit = false ∧ c ≠ '.') :
    ∃ read, optional fractionPart (cs ++ rest) = some (read, rest) ∧ read.getD [] = fraction := by
  cases h with
  | none =>
    have hpoint : char '.' rest = none := char_stop rest fun c hc => (hstop c hc).2
    exact ⟨none, optional_none (by simp [fractionPart, hpoint]), rfl⟩
  | digits nonempty digit =>
    have hdigits := span1_append nonempty digit fun c hc => (hstop c hc).1
    exact ⟨some fraction, optional_some (by simp [fractionPart, hdigits]), rfl⟩

theorem exponentSign_append (rest : List Char) {negative : Bool} {cs ds : List Char}
    (h : WritesSign negative cs ∨ negative = false ∧ cs = ['+']) (hne : ds ≠ [])
    (hdigit : ∀ d ∈ ds, d.isDigit) :
    ∃ read, optional (one fun c => c == '+' || c == '-') (cs ++ (ds ++ rest)) =
      some (read, ds ++ rest) ∧ (read == some '-') = negative := by
  rcases h with h | ⟨rfl, rfl⟩
  · cases h with
    | minus => exact ⟨some '-', rfl, rfl⟩
    | none =>
      obtain ⟨d, ds, rfl⟩ := List.exists_cons_of_ne_nil hne
      have hd : d.isDigit := hdigit d (by simp)
      have hsign : (d == '+' || d == '-') = false := by
        simp [ne_of_class hd (d := '+') rfl, ne_of_class hd (d := '-') rfl]
      exact ⟨none, optional_none (one_of_not_mem _ hsign), rfl⟩
  · exact ⟨some '+', rfl, rfl⟩

theorem exponentPart_append {exponent : Option (Bool × List Char)} {cs : List Char}
    (h : WritesExponent exponent cs)
    (hstop : ∀ c ∈ rest.head?, c.isDigit = false ∧ c ≠ 'e' ∧ c ≠ 'E') :
    optional exponentPart (cs ++ rest) = some (exponent, rest) := by
  cases h with
  | none =>
    have hmark : one (fun c => c == 'e' || c == 'E') rest = none :=
      one_stop rest fun c hc => by simp [(hstop c hc).2]
    exact optional_none (by simp [exponentPart, hmark])
  | @digits e negative cs ds mark sign nonempty digit =>
    have hmark : (e == 'e' || e == 'E') = true := by simpa using mark
    obtain ⟨read, hsign, hread⟩ := exponentSign_append rest sign nonempty digit
    have hdigits := span1_append nonempty digit fun c hc => (hstop c hc).1
    refine optional_some ?_
    simp [exponentPart, one_of_mem, hmark, hsign, hdigits, hread]

theorem endsValue_stops {c : Char} (h : endsValue c) :
    c.isDigit = false ∧ c ≠ '.' ∧ c ≠ 'e' ∧ c ≠ 'E' := by
  rcases endsValue_cases h with rfl | rfl | rfl | rfl | rfl | rfl | rfl <;> decide

theorem WritesExponent.stops {exponent : Option (Bool × List Char)} {cs : List Char}
    (h : WritesExponent exponent cs) (hended : Ended rest) :
    ∀ c ∈ (cs ++ rest).head?, c.isDigit = false ∧ c ≠ '.' := by
  intro c hc
  cases h with
  | none =>
    obtain ⟨hdigit, hpoint, -⟩ := endsValue_stops (hended c hc)
    exact ⟨hdigit, hpoint⟩
  | digits mark =>
    obtain rfl : _ = c := Option.some.inj hc
    rcases mark with rfl | rfl <;> decide

theorem WritesFraction.stops {fraction cs : List Char} (h : WritesFraction fraction cs)
    (hrest : ∀ c ∈ rest.head?, c.isDigit = false) :
    ∀ c ∈ (cs ++ rest).head?, c.isDigit = false := by
  intro c hc
  cases h with
  | none => exact hrest c hc
  | digits =>
    obtain rfl : _ = c := Option.some.inj hc
    decide

theorem WritesWhole.head {ds : List Char} (h : WritesWhole ds) :
    ∃ d others, ds = d :: others ∧ d.isDigit := by
  cases h with
  | zero => exact ⟨'0', [], rfl, by decide⟩
  | @digits c ds first others =>
    refine ⟨c, ds, rfl, ?_⟩
    have hzero : '0' ≤ c := Char.le_trans (by decide) first.1
    simpa [Char.isDigit] using ⟨hzero, first.2⟩

theorem WritesSign.read {negative : Bool} {cs : List Char} (h : WritesSign negative cs)
    (rest : List Char) (hrest : ∀ c ∈ rest.head?, c ≠ '-') :
    ∃ read, optional (char '-') (cs ++ rest) = some (read, rest) ∧ read.isSome = negative := by
  cases h with
  | minus => exact ⟨some (), optional_some (char_cons rest '-'), rfl⟩
  | none => exact ⟨.none, optional_none (char_stop rest hrest), rfl⟩

theorem WritesSign.eq_or {negative : Bool} {cs : List Char} (h : WritesSign negative cs) :
    cs = ['-'] ∨ cs = [] := by
  cases h <;> simp

/-- Every text of a number is read as that number, if the text does not go on with it. -/
theorem number_append {n : Number} {cs : List Char} (h : WritesNumber n cs)
    (hended : Ended rest) : number (cs ++ rest) = some (n, rest) := by
  cases h with
  | @parts s f e sign whole fraction exponent inRange =>
    have hexponent := exponentPart_append exponent fun c hc => by
      obtain ⟨hdigit, -, hmark⟩ := endsValue_stops (hended c hc)
      exact ⟨hdigit, hmark⟩
    have hpower := exponent.stops hended
    obtain ⟨point, hfraction, hpoint⟩ := fractionPart_append fraction hpower
    have hwhole := wholePart_append whole (fraction.stops fun c hc => (hpower c hc).1)
    obtain ⟨d, others, hhead, hd⟩ := whole.head
    obtain ⟨minus, hsign, hminus⟩ := sign.read (n.whole ++ (f ++ (e ++ rest))) fun c hc => by
      rw [hhead] at hc
      obtain rfl := Option.some.inj hc
      exact ne_of_class hd rfl
    simp [number, hsign, hwhole, hfraction, hexponent, hpoint, hminus, inRange]

theorem WritesNumber.head {n : Number} {cs : List Char} (h : WritesNumber n cs) :
    ∃ c others, cs = c :: others ∧ (c = '-' ∨ c.isDigit) := by
  cases h with
  | @parts s f e sign whole =>
    obtain ⟨d, others, hhead, hd⟩ := whole.head
    rcases sign.eq_or with rfl | rfl
    · exact ⟨'-', _, rfl, .inl rfl⟩
    · exact ⟨d, others ++ (f ++ e), by simp [hhead], .inr hd⟩

end ModalKeys.Json
