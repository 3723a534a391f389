import Schematic.Proofs.Denotation

/-!
# Texts that are accepted

Every text that denotes a value is read as that value. Each reader takes from the front of a
text exactly the part that the grammar puts there, provided that the rest cannot continue a
numeral. A reader is bounded by a number that is not less than the length of what it takes.
-/

namespace Schematic.Json

open Grammar

namespace Reader

/-! ## Numerals -/

def EndsDigits (rest : List Char) : Prop :=
  ∀ c ∈ rest.head?, c.isDigit = false

theorem takeWhile_digits {digits rest : List Char} (hdigits : ∀ c ∈ digits, c.isDigit = true)
    (hrest : EndsDigits rest) :
    (digits ++ rest).takeWhile Char.isDigit = digits ∧
      (digits ++ rest).dropWhile Char.isDigit = rest := by
  have hnone : rest.takeWhile Char.isDigit = [] ∧ rest.dropWhile Char.isDigit = rest := by
    cases rest with
    | nil => exact ⟨rfl, rfl⟩
    | cons c cs =>
      have hc : c.isDigit = false := hrest c rfl
      simp [hc]
  rw [List.takeWhile_append_of_pos hdigits, List.dropWhile_append_of_pos hdigits, hnone.1, hnone.2,
    List.append_nil]
  exact ⟨rfl, rfl⟩

/-- A run of digits is read up to the first character that is none. -/
theorem digits?_append {digits rest : List Char} (hdigits : IsDigits digits)
    (hrest : EndsDigits rest) : digits? (digits ++ rest) = some (digits, rest) := by
  have hnonempty : ¬ digits.isEmpty = true := fun h ↦ hdigits.1 (List.isEmpty_iff.mp h)
  obtain ⟨htake, hdrop⟩ := takeWhile_digits hdigits.2 hrest
  unfold digits?
  rw [htake, hdrop]
  exact if_neg hnonempty

theorem whole?_of_ne {c : Char} (hc : c ≠ '0') (cs : List Char) :
    whole? (c :: cs) = digits? (c :: cs) := by
  unfold whole?
  split
  · rename_i heq
    exact absurd (List.cons.inj heq).1 hc
  · rfl

/-- A whole part is read in front of anything that does not go on with a digit. A leading zero
stands alone. -/
theorem whole?_append {whole rest : List Char} (hwhole : IsWhole whole) (hrest : EndsDigits rest) :
    whole? (whole ++ rest) = some (whole, rest) := by
  obtain ⟨c, cs, rfl⟩ := List.exists_cons_of_ne_nil hwhole.1.1
  by_cases hc : c = '0'
  · rw [hwhole.2 (congrArg some hc)]
    rfl
  · rw [List.cons_append, whole?_of_ne hc, ← List.cons_append]
    exact digits?_append hwhole.1 hrest

/-- A written fraction is read, and one that is left out is not looked for in what follows. -/
theorem optional_fraction_append {fraction : Option (List Char)} {text rest : List Char}
    (h : SpellsFraction fraction text) (hrest : EndsDigits rest) (hpoint : '.' ∉ rest.head?) :
    optional fraction? (text ++ rest) = (fraction, rest) := by
  cases h with
  | none =>
    have hread : fraction? rest = none := by
      unfold fraction?
      split
      · exact absurd rfl hpoint
      · rfl
    unfold optional
    rw [List.nil_append, hread]
  | @some digits hdigits =>
    have hread : fraction? ('.' :: digits ++ rest) = some (digits, rest) :=
      digits?_append hdigits hrest
    unfold optional
    rw [hread]

theorem signedDigits?_append {negative : Bool} {sign digits rest : List Char}
    (hsign : (negative, sign) ∈ exponentSigns) (hdigits : IsDigits digits)
    (hrest : EndsDigits rest) :
    signedDigits? (sign ++ digits ++ rest) = some ((negative, digits), rest) := by
  have hread := digits?_append hdigits hrest
  rcases List.mem_cons.mp hsign with hnone | hsome
  · obtain ⟨rfl, rfl⟩ := Prod.mk.inj hnone
    obtain ⟨c, cs, rfl⟩ := List.exists_cons_of_ne_nil hdigits.1
    have hc : c.isDigit = true := hdigits.2 c List.mem_cons_self
    rw [List.nil_append]
    unfold signedDigits?
    split
    · rename_i heq
      rw [(List.cons.inj heq).1] at hc
      cases hc
    · rename_i heq
      rw [(List.cons.inj heq).1] at hc
      cases hc
    · rw [hread]
      rfl
  · rcases List.mem_cons.mp hsome with hplus | hminus
    · obtain ⟨rfl, rfl⟩ := Prod.mk.inj hplus
      change (digits? (digits ++ rest)).map _ = _
      rw [hread]
      rfl
    · obtain ⟨rfl, rfl⟩ := Prod.mk.inj (List.mem_singleton.mp hminus)
      change (digits? (digits ++ rest)).map _ = _
      rw [hread]
      rfl

theorem optional_exponent_append {exponent : Option (Bool × List Char)} {text rest : List Char}
    (h : SpellsExponent exponent text) (hrest : EndsDigits rest)
    (hletter : ∀ letter ∈ ['e', 'E'], letter ∉ rest.head?) :
    optional exponent? (text ++ rest) = (exponent, rest) := by
  cases h with
  | none =>
    have hread : exponent? rest = none := by
      unfold exponent?
      split
      · exact absurd rfl (hletter 'e' (by decide))
      · exact absurd rfl (hletter 'E' (by decide))
      · rfl
    unfold optional
    rw [List.nil_append, hread]
  | @some letter negative sign digits hmem hsign hdigits =>
    have hread : exponent? (letter :: (sign ++ digits) ++ rest) =
        some ((negative, digits), rest) := by
      have hsigned := signedDigits?_append hsign hdigits hrest
      rcases List.mem_cons.mp hmem with rfl | hmem
      · exact hsigned
      · obtain rfl := List.mem_singleton.mp hmem
        exact hsigned
    unfold optional
    rw [hread]

/-- A text that does not begin with a character by which a numeral may go on. -/
structure EndsNumeral (rest : List Char) : Prop where
  digits : EndsDigits rest
  point : '.' ∉ rest.head?
  letters : ∀ letter ∈ ['e', 'E'], letter ∉ rest.head?

/-- Other characters than digits, a point and the letters of an exponent end a numeral. -/
theorem endsNumeral_cons {c : Char} (hdigit : c.isDigit = false) (hpoint : c ≠ '.')
    (hletter : c ∉ ['e', 'E']) (cs : List Char) : EndsNumeral (c :: cs) where
  digits := by
    intro d hd
    obtain rfl := Option.some.inj hd
    exact hdigit
  point := fun h ↦ hpoint (Option.some.inj h)
  letters := by
    intro letter hmem h
    obtain rfl := Option.some.inj h
    exact hletter hmem

theorem unsigned_append (negative : Bool) {whole fraction exponent rest : List Char}
    {fraction? : Option (List Char)} {exponent? : Option (Bool × List Char)}
    (hwhole : IsWhole whole) (hfraction : SpellsFraction fraction? fraction)
    (hexponent : SpellsExponent exponent? exponent) (hrest : EndsNumeral rest) :
    unsigned negative (whole ++ (fraction ++ (exponent ++ rest))) =
      (numeral negative whole fraction? exponent?).map fun value ↦ (value, rest) := by
  -- What follows the fraction begins with the letter of the exponent, or is the rest.
  have hafter : EndsDigits (exponent ++ rest) ∧ '.' ∉ (exponent ++ rest).head? := by
    cases hexponent with
    | none => exact ⟨hrest.digits, hrest.point⟩
    | some hmem =>
      have hletters : ∀ letter ∈ ['e', 'E'], letter.isDigit = false ∧ letter ≠ '.' :=
        forall_mem_of_all rfl
      have hletter := hletters _ hmem
      constructor
      · intro c hc
        obtain rfl := Option.some.inj hc
        exact hletter.1
      · intro hc
        exact hletter.2 (Option.some.inj hc)
  have hdigits : EndsDigits (fraction ++ (exponent ++ rest)) := by
    cases hfraction with
    | none => exact hafter.1
    | some =>
      intro c hc
      obtain rfl := Option.some.inj hc
      rfl
  unfold unsigned
  rw [whole?_append hwhole hdigits]
  dsimp only [Option.bind_eq_bind, Option.bind_some]
  rw [optional_fraction_append hfraction hafter.1 hafter.2]
  dsimp only
  rw [optional_exponent_append hexponent hrest.digits hrest.letters]
  dsimp only
  cases numeral negative whole fraction? exponent? <;> rfl

/-- A numeral is read to its end, whatever follows, as long as it cannot go on. -/
theorem number_append {numeral : Numeral} {text rest : List Char} (h : SpellsNumeral numeral text)
    (hrest : EndsNumeral rest) :
    number (text ++ rest) = numeral.value?.map fun value ↦ (value, rest) := by
  obtain @⟨fraction, exponent, hwhole, hfraction, hexponent⟩ := h
  have hread := unsigned_append numeral.negative hwhole hfraction hexponent hrest
  change _ = numeral.value?.map _ at hread
  have hassoc : numeral.whole ++ (fraction ++ exponent) ++ rest =
      numeral.whole ++ (fraction ++ (exponent ++ rest)) := by simp only [List.append_assoc]
  rw [List.append_assoc, hassoc]
  cases hnegative : numeral.negative with
  | true =>
    rw [hnegative] at hread
    exact hread
  | false =>
    rw [hnegative] at hread
    obtain ⟨c, cs, hcs⟩ := List.exists_cons_of_ne_nil hwhole.1.1
    have hc : c.isDigit = true := hwhole.1.2 c (hcs ▸ List.mem_cons_self)
    rw [if_neg Bool.false_ne_true, List.nil_append, ← hread, hcs, List.cons_append]
    unfold number
    split
    · rename_i heq
      rw [(List.cons.inj heq).1] at hc
      cases hc
    · rfl

/-! ## Strings -/

/-- A character is no surrogate, so no single escape of one is mistaken for half a pair. -/
theorem not_surrogate (c : Char) :
    isHighSurrogate c.toNat = false ∧ isLowSurrogate c.toNat = false := by
  have hvalid : c.toNat < 0xd800 ∨ 0xdfff < c.toNat ∧ c.toNat < 0x110000 := c.valid
  simp only [isHighSurrogate, isLowSurrogate, Bool.and_eq_false_iff, decide_eq_false_iff_not]
  omega

theorem string_short {letter c : Char} (hletter : (letter, c) ∈ escapes) (cs : List Char) :
    string ('\x5c' :: letter :: cs) = consChar c (string cs) := by
  have hescapes : ∀ entry ∈ escapes, entry.1 ≠ 'u' ∧ shortEscaped? entry.1 = some entry.2 := by
    decide
  obtain ⟨hne, hescaped⟩ := hescapes _ hletter
  rw [string.eq_def]
  split
  · contradiction
  · rename_i heq
    exact absurd (List.cons.inj heq).1 (by decide)
  · rename_i heq
    exact absurd (List.cons.inj (List.cons.inj heq).2).1 hne
  · rename_i heq
    obtain ⟨rfl, rfl⟩ := List.cons.inj (List.cons.inj heq).2
    rw [hescaped]
  · rename_i hnone heq
    obtain ⟨rfl, rfl⟩ := List.cons.inj heq
    exact absurd rfl (hnone letter cs rfl)

theorem string_unit {p q r s c : Char} (hunit : unit? p q r s = some c.toNat) (cs : List Char) :
    string ('\x5c' :: 'u' :: p :: q :: r :: s :: cs) = consChar c (string cs) := by
  obtain ⟨hhigh, hlow⟩ := not_surrogate c
  rw [string, hunit]
  simp only [hhigh, hlow, Bool.false_eq_true, if_false, Char.ofNat_toNat]

/-- Two escaped surrogates are read as the one character that they stand for. -/
theorem string_pair {p q r s p' q' r' s' c : Char} {high low : Nat}
    (hunit : unit? p q r s = some high) (hunit' : unit? p' q' r' s' = some low)
    (hhigh : isHighSurrogate high = true) (hlow : isLowSurrogate low = true)
    (hcode : c.toNat = 0x10000 + (high - 0xD800) * 0x400 + (low - 0xDC00)) (cs : List Char) :
    string ('\x5c' :: 'u' :: p :: q :: r :: s :: '\x5c' :: 'u' :: p' :: q' :: r' :: s' :: cs) =
      consChar c (string cs) := by
  rw [string, hunit]
  simp only [hhigh, if_true]
  rw [hunit']
  simp only [hlow, if_true]
  rw [joinSurrogates, ← hcode, Char.ofNat_toNat]

/-- A string is read up to its closing quotation mark. -/
theorem string_of_denotes {text content : List Char} (h : DenotesString text content)
    (rest : List Char) : string (text ++ '\x22' :: rest) = some (content, rest) := by
  induction h with
  | nil => exact string_closing rest
  | plain hcontrol hquote hbackslash _ ih =>
    rw [List.cons_append, string_plain hcontrol hquote hbackslash, ih]
    rfl
  | short hletter _ ih =>
    rw [List.cons_append, List.cons_append, string_short hletter, ih]
    rfl
  | unit hunit _ ih =>
    simp only [List.cons_append]
    rw [string_unit hunit, ih]
    rfl
  | pair hunit hunit' hhigh hlow hcode _ ih =>
    simp only [List.cons_append]
    rw [string_pair hunit hunit' hhigh hlow hcode, ih]
    rfl

/-! ## Blanks and heads -/

def StartsPlain (cs : List Char) : Prop :=
  ∀ c ∈ cs.head?, isSpace c = false

theorem skipSpace_of_startsPlain {cs : List Char} (h : StartsPlain cs) : skipSpace cs = cs := by
  cases cs with
  | nil => rfl
  | cons c cs =>
    have hc : isSpace c = false := h c rfl
    simp [skipSpace, hc]

theorem skipSpace_append {space cs : List Char} (hspace : IsSpace space) (h : StartsPlain cs) :
    skipSpace (space ++ cs) = cs := by
  have hskipped : skipSpace (space ++ cs) = skipSpace cs := List.dropWhile_append_of_pos hspace
  rw [hskipped, skipSpace_of_startsPlain h]

theorem startsPlain_cons {c : Char} (hc : isSpace c = false) (cs : List Char) :
    StartsPlain (c :: cs) := by
  intro d hd
  obtain rfl := Option.some.inj hd
  exact hc

theorem isSpace_eq_false_of_isDigit {c : Char} (h : c.isDigit = true) : isSpace c = false := by
  by_contra hspace
  rw [Bool.not_eq_false] at hspace
  simp only [isSpace, Bool.or_eq_true, decide_eq_true_eq] at hspace
  rcases hspace with ((rfl | rfl) | rfl) | rfl <;> cases h

/-- A numeral begins with a digit or with the sign. -/
theorem exists_head_of_spellsNumeral {numeral : Numeral} {text : List Char}
    (h : SpellsNumeral numeral text) :
    ∃ c cs, text = c :: cs ∧ (c.isDigit = true ∨ c = '-') := by
  obtain @⟨fraction, exponent, hwhole, -, -⟩ := h
  obtain ⟨c, cs, hcs⟩ := List.exists_cons_of_ne_nil hwhole.1.1
  cases numeral.negative with
  | true => exact ⟨'-', _, rfl, .inr rfl⟩
  | false =>
    rw [hcs]
    exact ⟨c, _, rfl, .inl (hwhole.1.2 c (hcs ▸ List.mem_cons_self))⟩

/-- A value begins with no blank and with no closing bracket. -/
theorem exists_head_of_spells {text : List Char} {numerals : List Numeral}
    (h : Spells .value text numerals) :
    ∃ c cs, text = c :: cs ∧ isSpace c = false ∧ c ≠ ']' := by
  cases h with
  | word hword =>
    have hwords : ∀ word ∈ words, ∃ c cs, word = c :: cs ∧ isSpace c = false ∧ c ≠ ']' := by
      intro word hword
      simp only [words, List.mem_cons, List.not_mem_nil, or_false] at hword
      rcases hword with rfl | rfl | rfl
      · exact ⟨'n', _, rfl, rfl, by decide⟩
      · exact ⟨'t', _, rfl, rfl, by decide⟩
      · exact ⟨'f', _, rfl, rfl, by decide⟩
    exact hwords _ hword
  | numeral h =>
    obtain ⟨c, cs, rfl, hc⟩ := exists_head_of_spellsNumeral h
    refine ⟨c, cs, rfl, ?_⟩
    rcases hc with hdigit | rfl
    · refine ⟨isSpace_eq_false_of_isDigit hdigit, ?_⟩
      rintro rfl
      cases hdigit
    · exact ⟨rfl, by decide⟩
  | string => exact ⟨_, _, rfl, rfl, by decide⟩
  | @empty container => cases container <;> exact ⟨_, _, rfl, rfl, by decide⟩
  | @full container => cases container <;> exact ⟨_, _, rfl, rfl, by decide⟩

/-- A value whose numeral is read as that value is read where a value is expected. -/
theorem value_numeral {numeral : Numeral} {text rest : List Char} {value : Json}
    (h : SpellsNumeral numeral text) (hvalue : numeral.value? = some value)
    (hrest : EndsNumeral rest) (fuel : Nat) :
    Reader.value (fuel + 1) (text ++ rest) = some (value, rest) := by
  have hread := number_append h hrest
  rw [hvalue, Option.map_some] at hread
  obtain ⟨c, cs, rfl, hc⟩ := exists_head_of_spellsNumeral h
  have hne : ∀ d ∈ ['\x22', '[', '\x7b', 'n', 't', 'f'], c ≠ d := by
    rintro d hd rfl
    have hletters : ∀ d ∈ ['\x22', '[', '\x7b', 'n', 't', 'f'], ¬ (d.isDigit = true ∨ d = '-') :=
      forall_mem_of_all rfl
    exact hletters _ hd hc
  rw [List.cons_append] at hread ⊢
  rw [value_of_ne hne]
  exact hread

theorem isSpace_ne {c : Char} (h : isSpace c = true) :
    c.isDigit = false ∧ c ≠ '.' ∧ c ∉ ['e', 'E'] := by
  simp only [isSpace, Bool.or_eq_true, decide_eq_true_eq] at h
  rcases h with ((rfl | rfl) | rfl) | rfl <;> decide

theorem endsNumeral_append {space rest : List Char} (hspace : IsSpace space)
    (hrest : EndsNumeral rest) : EndsNumeral (space ++ rest) := by
  cases space with
  | nil => exact hrest
  | cons c cs =>
    obtain ⟨hdigit, hpoint, hletter⟩ := isSpace_ne (hspace c List.mem_cons_self)
    exact endsNumeral_cons hdigit hpoint hletter _

theorem endsNumeral_closing (container : Container) (rest : List Char) :
    EndsNumeral (container.closing :: rest) := by
  cases container <;> exact endsNumeral_cons rfl (by decide) (by decide) rest

theorem endsNumeral_comma (rest : List Char) : EndsNumeral (',' :: rest) :=
  endsNumeral_cons rfl (by decide) (by decide) rest

theorem startsPlain_closing (container : Container) (rest : List Char) :
    StartsPlain (container.closing :: rest) := by
  cases container <;> exact startsPlain_cons rfl rest

/-! ## Containers -/

theorem value_skipSpace {fuel : Nat} {space text rest : List Char} {value : Json}
    (hspace : IsSpace space) (hstart : StartsPlain (text ++ rest))
    (hvalue : Reader.value fuel (text ++ rest) = some (value, rest)) :
    Reader.value fuel (skipSpace (space ++ (text ++ rest))) = some (value, rest) := by
  rw [skipSpace_append hspace hstart]
  exact hvalue

/-- The reader of the entries of a container, from the first one to the closing bracket. -/
def entries : (container : Container) → Nat → List Char →
    Option (List container.Entry × List Char)
  | .array => items
  | .object => fields

/-- An empty container is read with any blanks between its brackets. -/
theorem value_empty (container : Container) {space : List Char} (hspace : IsSpace space)
    (fuel : Nat) (rest : List Char) :
    Reader.value (fuel + 1) (container.opening :: (space ++ container.closing :: rest)) =
      some (container.value [], rest) := by
  cases container with
  | array => exact value_array_empty (skipSpace_append hspace (startsPlain_closing .array rest))
  | object => exact value_object_empty (skipSpace_append hspace (startsPlain_closing .object rest))

/-- A text that begins with no blank and not with the closing bracket of a container. -/
def StartsEntry (container : Container) (text : List Char) : Prop :=
  ∃ c cs, text = c :: cs ∧ isSpace c = false ∧ c ≠ container.closing

theorem StartsEntry.append {container : Container} {text : List Char}
    (h : StartsEntry container text) (rest : List Char) : StartsEntry container (text ++ rest) := by
  obtain ⟨c, cs, rfl, hc⟩ := h
  exact ⟨c, cs ++ rest, rfl, hc⟩

theorem StartsEntry.startsPlain {container : Container} {text : List Char}
    (h : StartsEntry container text) : StartsPlain text := by
  obtain ⟨c, cs, rfl, hc, -⟩ := h
  exact startsPlain_cons hc cs

/-- A container with entries is read by the reader of its entries. -/
theorem value_full (container : Container) {space text : List Char} (hspace : IsSpace space)
    (htext : StartsEntry container text) (fuel : Nat) :
    Reader.value (fuel + 1) (container.opening :: (space ++ text)) =
      (entries container fuel text).map fun (entries, rest) ↦ (container.value entries, rest) := by
  have hskipped := skipSpace_append hspace htext.startsPlain
  obtain ⟨c, cs, rfl, -, hc⟩ := htext
  cases container with
  | array => exact value_array_of_ne hskipped hc
  | object => exact value_object_of_ne hskipped hc

/-! ## Parts -/

/-- An entry is read from its text, both as the last one and in front of others. -/
structure ReadsEntry (container : Container) (text : List Char) (entry : container.Entry) :
    Prop where
  starts : StartsEntry container text
  last {fuel : Nat} (hfuel : text.length ≤ fuel) (rest : List Char) :
    entries container (fuel + 1) (text ++ container.closing :: rest) = some ([entry], rest)
  next {fuel : Nat} (hfuel : text.length ≤ fuel) (rest : List Char) :
    entries container (fuel + 1) (text ++ ',' :: rest) =
      (entries container fuel (skipSpace rest)).map fun (others, rest) ↦ (entry :: others, rest)

/-- A part of a text is read as what it stands for. -/
def Accepts : (part : Part) → List Char → part.Meaning → Prop
  | .value, text, read => ∀ ⦃fuel rest⦄, text.length ≤ fuel → EndsNumeral rest →
      Reader.value fuel (text ++ rest) = some (read, rest)
  | .entry container, text, read => ReadsEntry container text read
  | .entries container, text, read => StartsEntry container text ∧
      ∀ ⦃fuel rest⦄, text.length < fuel →
        entries container fuel (text ++ container.closing :: rest) = some (read, rest)

/-- A value is accepted if it is read with any fuel beyond the length of its text. -/
theorem accepts_value {text : List Char} {value : Json} (hne : text ≠ [])
    (h : ∀ fuel rest, text.length ≤ fuel + 1 → EndsNumeral rest →
      Reader.value (fuel + 1) (text ++ rest) = some (value, rest)) :
    Accepts .value text value := by
  intro fuel rest hfuel hrest
  have hpos := List.length_pos_of_ne_nil hne
  obtain ⟨fuel, rfl⟩ := Nat.exists_eq_succ_of_ne_zero (by omega : fuel ≠ 0)
  exact h fuel rest hfuel hrest

theorem accepts_word {word : List Char} {value : Json} (hword : (word, value) ∈ wordValues) :
    Accepts .value word value := by
  simp only [wordValues, List.mem_cons, Prod.mk.injEq, List.not_mem_nil, or_false] at hword
  rcases hword with ⟨rfl, rfl⟩ | ⟨rfl, rfl⟩ | ⟨rfl, rfl⟩
  all_goals exact accepts_value (by decide) fun _ _ _ _ ↦ rfl

theorem accepts_numeral {numeral : Numeral} {text : List Char} {value : Json}
    (h : SpellsNumeral numeral text) (hvalue : numeral.Denotes value) :
    Accepts .value text value := by
  have hne : text ≠ [] := by
    obtain ⟨c, cs, rfl, -⟩ := exists_head_of_spellsNumeral h
    exact List.cons_ne_nil c cs
  refine accepts_value hne fun fuel rest _ hrest ↦ ?_
  exact value_numeral h (Numeral.value?_eq_some_iff.mpr hvalue) hrest fuel

theorem accepts_string {text content : List Char} (h : DenotesString text content) :
    Accepts .value ('\x22' :: (text ++ ['\x22'])) (.str (String.ofList content)) := by
  refine accepts_value (List.cons_ne_nil _ _) fun fuel rest _ _ ↦ ?_
  rw [List.cons_append, List.append_assoc, List.singleton_append, value_quote, string_of_denotes h]
  rfl

theorem accepts_empty (container : Container) {space : List Char} (hspace : IsSpace space) :
    Accepts .value (container.opening :: (space ++ [container.closing])) (container.value []) := by
  refine accepts_value (List.cons_ne_nil _ _) fun fuel rest _ _ ↦ ?_
  rw [List.cons_append, List.append_assoc, List.singleton_append]
  exact value_empty container hspace fuel rest

theorem accepts_full {container : Container} {space text : List Char}
    {read : List container.Entry} (hspace : IsSpace space)
    (h : Accepts (.entries container) text read) :
    Accepts .value (container.opening :: (space ++ (text ++ [container.closing])))
      (container.value read) := by
  obtain ⟨hstarts, hread⟩ := h
  refine accepts_value (List.cons_ne_nil _ _) fun fuel rest hfuel _ ↦ ?_
  simp only [List.length_cons, List.length_append, List.length_nil] at hfuel
  rw [List.cons_append, List.append_assoc, List.append_assoc, List.singleton_append,
    value_full container hspace (hstarts.append _), hread (by omega)]
  rfl

theorem accepts_item {text space : List Char} {value : Json} (hstarts : StartsEntry .array text)
    (h : Accepts .value text value) (hspace : IsSpace space) :
    Accepts (.entry .array) (text ++ space) value where
  starts := hstarts.append space
  last hfuel rest := by
    rw [List.length_append] at hfuel
    rw [List.append_assoc]
    exact items_last
      (h (by omega) (endsNumeral_append hspace (endsNumeral_closing .array rest)))
      (skipSpace_append hspace (startsPlain_closing .array rest))
  next hfuel rest := by
    rw [List.length_append] at hfuel
    rw [List.append_assoc]
    exact items_next (h (by omega) (endsNumeral_append hspace (endsNumeral_comma rest)))
      (skipSpace_append hspace (startsPlain_cons rfl rest))

theorem accepts_field {key content space space' text space'' : List Char} {value : Json}
    (hkey : DenotesString key content) (hspace : IsSpace space) (hspace' : IsSpace space')
    (hstarts : StartsEntry .array text) (h : Accepts .value text value)
    (hspace'' : IsSpace space'') :
    Accepts (.entry .object)
      ('\x22' :: (key ++ '\x22' :: (space ++ ':' :: (space' ++ (text ++ space'')))))
      (String.ofList content, value) where
  starts := ⟨'\x22', _, rfl, rfl, by decide⟩
  last {fuel} hfuel rest := by
    simp only [List.length_cons, List.length_append] at hfuel
    simp only [List.cons_append, List.append_assoc]
    exact fields_last (string_of_denotes hkey _) (skipSpace_append hspace (startsPlain_cons rfl _))
      (value_skipSpace hspace' (hstarts.append _).startsPlain
        (h (by omega) (endsNumeral_append hspace'' (endsNumeral_closing .object rest))))
      (skipSpace_append hspace'' (startsPlain_closing .object rest))
  next {fuel} hfuel rest := by
    simp only [List.length_cons, List.length_append] at hfuel
    simp only [List.cons_append, List.append_assoc]
    exact fields_next (string_of_denotes hkey _) (skipSpace_append hspace (startsPlain_cons rfl _))
      (value_skipSpace hspace' (hstarts.append _).startsPlain
        (h (by omega) (endsNumeral_append hspace'' (endsNumeral_comma rest))))
      (skipSpace_append hspace'' (startsPlain_cons rfl rest))

theorem accepts_last {container : Container} {text : List Char} {entry : container.Entry}
    (h : Accepts (.entry container) text entry) : Accepts (.entries container) text [entry] := by
  refine ⟨h.starts, fun fuel rest hfuel ↦ ?_⟩
  obtain ⟨fuel, rfl⟩ := Nat.exists_eq_succ_of_ne_zero (Nat.ne_zero_of_lt hfuel)
  exact h.last (Nat.le_of_lt_succ hfuel) rest

theorem accepts_next {container : Container} {text space others : List Char}
    {entry : container.Entry} {read : List container.Entry}
    (h : Accepts (.entry container) text entry) (hspace : IsSpace space)
    (hothers : Accepts (.entries container) others read) :
    Accepts (.entries container) (text ++ ',' :: (space ++ others)) (entry :: read) := by
  obtain ⟨hstarts, hread⟩ := hothers
  refine ⟨h.starts.append _, fun fuel rest hfuel ↦ ?_⟩
  simp only [List.length_append, List.length_cons] at hfuel
  obtain ⟨fuel, rfl⟩ := Nat.exists_eq_succ_of_ne_zero (Nat.ne_zero_of_lt hfuel)
  have hskipped := skipSpace_append hspace (hstarts.append (container.closing :: rest)).startsPlain
  rw [List.append_assoc, List.cons_append, List.append_assoc, h.next (by omega), hskipped,
    hread (by omega)]
  rfl

theorem startsEntry_of_denotes {text : List Char} {value : Json} (h : Denotes .value text value) :
    StartsEntry .array text := by
  obtain ⟨hspells, -, -⟩ := h.spelled
  exact exists_head_of_spells hspells

/-- Every part of a text is read as what it stands for. -/
theorem accepts {part : Part} {text : List Char} {meaning : part.Meaning}
    (h : Denotes part text meaning) : Accepts part text meaning := by
  induction h with
  | word hword => exact accepts_word hword
  | numeral h hvalue => exact accepts_numeral h hvalue
  | string h => exact accepts_string h
  | empty hspace => exact accepts_empty _ hspace
  | full hspace _ ih => exact accepts_full hspace ih
  | item h hspace ih => exact accepts_item (startsEntry_of_denotes h) ih hspace
  | field hkey hspace hspace' h hspace'' ih =>
    exact accepts_field hkey hspace hspace' (startsEntry_of_denotes h) ih hspace''
  | last _ ih => exact accepts_last ih
  | next _ hspace _ ih ihrest => exact accepts_next ih hspace ihrest

end Reader

/-- A text that denotes a value is read as that value. -/
theorem read?_of_denotesText {text : List Char} {value : Json} (h : DenotesText text value) :
    read? text = some value := by
  obtain @⟨space, text, space', value, hspace, hvalue, hspace'⟩ := h
  have hends : Reader.EndsNumeral space' := by
    have hnil : Reader.EndsNumeral [] := by
      constructor <;> simp [Reader.EndsDigits]
    have hspaces := Reader.endsNumeral_append hspace' hnil
    rwa [List.append_nil] at hspaces
  have hstarts := (Reader.startsEntry_of_denotes hvalue).append space'
  have hrest : Reader.skipSpace space' = [] := List.dropWhile_eq_nil_iff.mpr hspace'
  unfold read?
  rw [Reader.skipSpace_append hspace hstarts.startsPlain, Reader.accepts hvalue _ hends]
  · dsimp only
    rw [hrest]
    rfl
  · simp only [List.length_append]
    omega

end Schematic.Json
