import Mathlib.Data.List.Basic
import Schematic.Json.Reader

/-!
# The grammar of JSON

What a JSON text is, apart from how it is read or written. A value is a word, a numeral, a
string, or a container with blanks between its parts; each rule also lists the numerals that
stand outside strings. The words for numbers that are not finite are no values.
-/

namespace Schematic.Json

/-- What is computed of each character of a list holds of each of them. -/
theorem forall_mem_of_all {P : Char → Prop} [DecidablePred P] {cs : List Char}
    (h : cs.all (fun c ↦ P c) = true) : ∀ c ∈ cs, P c :=
  fun c hc ↦ of_decide_eq_true (List.all_eq_true.mp h c hc)

namespace Grammar

/-! ## Numerals -/

def IsDigits (cs : List Char) : Prop :=
  cs ≠ [] ∧ ∀ c ∈ cs, c.isDigit = true

/-- The integral part of a numeral: a zero alone, or digits that do not begin with zero. -/
def IsWhole (cs : List Char) : Prop :=
  IsDigits cs ∧ (cs.head? = some '0' → cs = ['0'])

theorem isWhole_zero : IsWhole ['0'] :=
  ⟨⟨List.cons_ne_nil _ _, List.forall_mem_singleton.mpr rfl⟩, fun _ ↦ rfl⟩

/-- The parts of a numeral as they are written. -/
structure Numeral where
  negative : Bool
  whole : List Char
  fraction : Option (List Char)
  exponent : Option (Bool × List Char)

inductive SpellsFraction : Option (List Char) → List Char → Prop where
  | none : SpellsFraction none []
  | some {digits : List Char} (hdigits : IsDigits digits) :
      SpellsFraction (some digits) ('.' :: digits)

def exponentSigns : List (Bool × List Char) :=
  [(false, []), (false, ['+']), (true, ['-'])]

inductive SpellsExponent : Option (Bool × List Char) → List Char → Prop where
  | none : SpellsExponent none []
  | some {letter : Char} {negative : Bool} {sign digits : List Char}
      (hletter : letter ∈ ['e', 'E']) (hsign : (negative, sign) ∈ exponentSigns)
      (hdigits : IsDigits digits) :
      SpellsExponent (some (negative, digits)) (letter :: (sign ++ digits))

inductive SpellsNumeral : Numeral → List Char → Prop where
  | mk {numeral : Numeral} {fraction exponent : List Char} (hwhole : IsWhole numeral.whole)
      (hfraction : SpellsFraction numeral.fraction fraction)
      (hexponent : SpellsExponent numeral.exponent exponent) :
      SpellsNumeral numeral
        ((if numeral.negative then ['-'] else []) ++ (numeral.whole ++ (fraction ++ exponent)))

/-- The characters of numerals besides the digits. -/
def numeralMarks : List Char :=
  ['-', '+', '.', 'e', 'E']

/-- What holds of digits and of the marks holds of each character of a numeral. -/
theorem forall_of_spellsNumeral {P : Char → Prop} (hdigit : ∀ c, c.isDigit = true → P c)
    (hmarks : ∀ c ∈ numeralMarks, P c) {numeral : Numeral} {text : List Char}
    (h : SpellsNumeral numeral text) : ∀ c ∈ text, P c := by
  have hdigits {digits : List Char} (h : IsDigits digits) : ∀ c ∈ digits, P c :=
    fun c hc ↦ hdigit c (h.2 c hc)
  obtain @⟨fraction, exponent, hwhole, hfraction, hexponent⟩ := h
  have hsign : ∀ c ∈ if numeral.negative then ['-'] else [], P c := by
    split
    · exact List.forall_mem_singleton.mpr (hmarks '-' (by decide))
    · exact List.forall_mem_nil _
  have hfraction : ∀ c ∈ fraction, P c := by
    generalize numeral.fraction = places at hfraction
    cases hfraction with
    | none => exact List.forall_mem_nil _
    | some h => exact List.forall_mem_cons.mpr ⟨hmarks '.' (by decide), hdigits h⟩
  have hexponent : ∀ c ∈ exponent, P c := by
    generalize numeral.exponent = power at hexponent
    cases hexponent with
    | none => exact List.forall_mem_nil _
    | some hletter hsign h =>
      have hletters : ['e', 'E'] ⊆ numeralMarks := by decide
      have hsigns : ∀ entry ∈ exponentSigns, entry.2 ⊆ numeralMarks := by decide
      exact List.forall_mem_cons.mpr ⟨hmarks _ (hletters hletter), List.forall_mem_append.mpr
        ⟨fun c hc ↦ hmarks c (hsigns _ hsign hc), hdigits h⟩⟩
  exact List.forall_mem_append.mpr ⟨hsign, List.forall_mem_append.mpr
    ⟨hdigits hwhole.1, List.forall_mem_append.mpr ⟨hfraction, hexponent⟩⟩⟩

/-! ## Strings -/

def escapeLetters : List Char :=
  ['\x22', '\x5c', '/', 'b', 'f', 'n', 'r', 't']

def IsHexDigit (c : Char) : Prop :=
  (Reader.hexValue? c).isSome = true

/-- The characters between the quotes of a string. -/
inductive SpellsString : List Char → Prop where
  | nil : SpellsString []
  | plain {c : Char} {cs : List Char} (hcontrol : 0x20 ≤ c.toNat) (hquote : c ≠ '\x22')
      (hbackslash : c ≠ '\x5c') (h : SpellsString cs) : SpellsString (c :: cs)
  | short {letter : Char} {cs : List Char} (hletter : letter ∈ escapeLetters)
      (h : SpellsString cs) : SpellsString ('\x5c' :: letter :: cs)
  | unit {a b c d : Char} {cs : List Char} (ha : IsHexDigit a) (hb : IsHexDigit b)
      (hc : IsHexDigit c) (hd : IsHexDigit d) (h : SpellsString cs) :
      SpellsString ('\x5c' :: 'u' :: a :: b :: c :: d :: cs)

/-! ## Values -/

def IsSpace (cs : List Char) : Prop :=
  ∀ c ∈ cs, Reader.isSpace c = true

def words : List (List Char) :=
  ["null".toList, "true".toList, "false".toList]

inductive Container where
  | array
  | object

namespace Container

def opening : Container → Char
  | array => '['
  | object => '\x7b'

def closing : Container → Char
  | array => ']'
  | object => '\x7d'

end Container

/-- What a text spells: a value, an entry of a container with the blanks behind it, or several
entries. -/
inductive Part where
  | value
  | entry (container : Container)
  | entries (container : Container)

/-- A text spells a part, with some numerals in it. -/
inductive Spells : Part → List Char → List Numeral → Prop where
  | word {word : List Char} (hword : word ∈ words) : Spells .value word []
  | numeral {numeral : Numeral} {text : List Char} (h : SpellsNumeral numeral text) :
      Spells .value text [numeral]
  | string {text : List Char} (h : SpellsString text) :
      Spells .value ('\x22' :: (text ++ ['\x22'])) []
  | empty {container : Container} {space : List Char} (hspace : IsSpace space) :
      Spells .value (container.opening :: (space ++ [container.closing])) []
  | full {container : Container} {space text : List Char} {numerals : List Numeral}
      (hspace : IsSpace space) (h : Spells (.entries container) text numerals) :
      Spells .value (container.opening :: (space ++ (text ++ [container.closing]))) numerals
  | item {text space : List Char} {numerals : List Numeral} (h : Spells .value text numerals)
      (hspace : IsSpace space) : Spells (.entry .array) (text ++ space) numerals
  | field {key space space' text space'' : List Char} {numerals : List Numeral}
      (hkey : SpellsString key) (hspace : IsSpace space) (hspace' : IsSpace space')
      (h : Spells .value text numerals) (hspace'' : IsSpace space'') :
      Spells (.entry .object)
        ('\x22' :: (key ++ '\x22' :: (space ++ ':' :: (space' ++ (text ++ space''))))) numerals
  | last {container : Container} {text : List Char} {numerals : List Numeral}
      (h : Spells (.entry container) text numerals) : Spells (.entries container) text numerals
  | next {container : Container} {text space rest : List Char} {numerals others : List Numeral}
      (h : Spells (.entry container) text numerals) (hspace : IsSpace space)
      (hrest : Spells (.entries container) rest others) :
      Spells (.entries container) (text ++ ',' :: (space ++ rest)) (numerals ++ others)

/-- A JSON text: a value with blanks around it. -/
inductive IsText : List Char → List Numeral → Prop where
  | mk {space text space' : List Char} {numerals : List Numeral} (hspace : IsSpace space)
      (h : Spells .value text numerals) (hspace' : IsSpace space') :
      IsText (space ++ (text ++ space')) numerals

/-! ## Outside strings -/

/-- The characters of a text outside its strings, given whether the text begins within one. -/
def outside : Bool → List Char → List Char
  | _, [] => []
  | false, c :: rest => c :: outside (c = '\x22') rest
  | true, '\x5c' :: _ :: rest => outside true rest
  | true, c :: rest => outside (c ≠ '\x22') rest

/-- In a text without quotation marks, everything is outside. -/
theorem outside_append_plain {text : List Char} (h : ∀ c ∈ text, c ≠ '\x22') (rest : List Char) :
    outside false (text ++ rest) = text ++ outside false rest := by
  induction text with
  | nil => rfl
  | cons c cs ih =>
    obtain ⟨hc, hcs⟩ := List.forall_mem_cons.mp h
    rw [List.cons_append, outside, decide_eq_false hc, ih hcs, List.cons_append]

/-- Within a string, a character that begins no escape is passed. -/
theorem outside_within {c : Char} (hc : c ≠ '\x5c') (rest : List Char) :
    outside true (c :: rest) = outside (c ≠ '\x22') rest := by
  rw [outside.eq_def]
  split
  · contradiction
  · contradiction
  · rename_i heq
    exact absurd (List.cons.inj heq).1 hc
  · rename_i heq
    obtain ⟨rfl, rfl⟩ := List.cons.inj heq
    rfl

theorem isHexDigit_ne {c : Char} (h : IsHexDigit c) : c ≠ '\x5c' ∧ c ≠ '\x22' := by
  constructor <;> rintro rfl <;> exact absurd h (by unfold IsHexDigit; decide)

/-- The end of a string leads out of it, whatever the string. -/
theorem outside_of_spellsString {text : List Char} (h : SpellsString text) (rest : List Char) :
    outside true (text ++ '\x22' :: rest) = outside false rest := by
  have hpass {c : Char} (hbackslash : c ≠ '\x5c') (hquote : c ≠ '\x22') (cs : List Char) :
      outside true (c :: cs) = outside true cs := by
    rw [outside_within hbackslash, decide_eq_true hquote]
  induction h with
  | nil => exact outside_within (by decide) rest
  | plain _ hquote hbackslash _ ih =>
    rw [List.cons_append, hpass hbackslash hquote, ih]
  | short _ _ ih => exact ih
  | unit ha hb hc hd _ ih =>
    simp only [List.cons_append]
    rw [outside, hpass (isHexDigit_ne ha).1 (isHexDigit_ne ha).2,
      hpass (isHexDigit_ne hb).1 (isHexDigit_ne hb).2,
      hpass (isHexDigit_ne hc).1 (isHexDigit_ne hc).2,
      hpass (isHexDigit_ne hd).1 (isHexDigit_ne hd).2, ih]

/-- Outside its strings, a text has none of the capital letters of the words for numbers that are
not finite, and it does not end within a string. -/
def IsPlain (text : List Char) : Prop :=
  ∀ rest, ∃ front, outside false (text ++ rest) = front ++ outside false rest ∧
    ∀ c ∈ front, c ≠ 'N' ∧ c ≠ 'I'

theorem isPlain_of_forall {text : List Char} (h : ∀ c ∈ text, c ≠ '\x22' ∧ c ≠ 'N' ∧ c ≠ 'I') :
    IsPlain text := by
  intro rest
  refine ⟨text, outside_append_plain (fun c hc ↦ (h c hc).1) rest, fun c hc ↦ (h c hc).2⟩

theorem IsPlain.append {text text' : List Char} (h : IsPlain text) (h' : IsPlain text') :
    IsPlain (text ++ text') := by
  intro rest
  obtain ⟨front, hfront, hplain⟩ := h (text' ++ rest)
  obtain ⟨front', hfront', hplain'⟩ := h' rest
  refine ⟨front ++ front', ?_, ?_⟩
  · rw [List.append_assoc, hfront, hfront', List.append_assoc]
  · intro c hc
    rcases List.mem_append.mp hc with hc | hc
    · exact hplain c hc
    · exact hplain' c hc

theorem isPlain_singleton {c : Char} (h : c ≠ '\x22' ∧ c ≠ 'N' ∧ c ≠ 'I') : IsPlain [c] :=
  isPlain_of_forall (List.forall_mem_singleton.mpr h)

theorem isPlain_space {space : List Char} (h : IsSpace space) : IsPlain space := by
  refine isPlain_of_forall fun c hc ↦ ?_
  have hspace := h c hc
  refine ⟨?_, ?_, ?_⟩ <;> rintro rfl <;> exact absurd hspace (by decide)

theorem isPlain_numeral {numeral : Numeral} {text : List Char} (h : SpellsNumeral numeral text) :
    IsPlain text := by
  refine isPlain_of_forall (forall_of_spellsNumeral (fun c hdigit ↦ ?_)
    (List.forall_iff_forall_mem.mp (by decide)) h)
  refine ⟨?_, ?_, ?_⟩ <;> rintro rfl <;> exact absurd hdigit (by decide)

/-- Within the quotes of a string, any letter may stand. -/
theorem isPlain_string {text : List Char} (h : SpellsString text) :
    IsPlain ('\x22' :: (text ++ ['\x22'])) := by
  intro rest
  refine ⟨['\x22'], ?_, by simp⟩
  simp only [List.cons_append, List.append_assoc, List.nil_append]
  rw [outside]
  exact congrArg _ (outside_of_spellsString h rest)

/-- The grammar has the letters in strings only. -/
theorem isPlain_of_spells {part : Part} {text : List Char} {numerals : List Numeral}
    (h : Spells part text numerals) : IsPlain text := by
  have hopening (container : Container) : IsPlain [container.opening] := by
    cases container <;> exact isPlain_singleton (by decide)
  have hclosing (container : Container) : IsPlain [container.closing] := by
    cases container <;> exact isPlain_singleton (by decide)
  have hcomma : IsPlain [','] := isPlain_singleton (by decide)
  have hcolon : IsPlain [':'] := isPlain_singleton (by decide)
  induction h with
  | @word word hword =>
    have hwords : ∀ word ∈ words, ∀ c ∈ word, c ≠ '\x22' ∧ c ≠ 'N' ∧ c ≠ 'I' := by simp [words]
    exact isPlain_of_forall (hwords word hword)
  | numeral h => exact isPlain_numeral h
  | string h => exact isPlain_string h
  | @empty container space hspace =>
    exact (hopening container).append ((isPlain_space hspace).append (hclosing container))
  | @full container space text numerals hspace _ ih =>
    exact (hopening container).append
      ((isPlain_space hspace).append (ih.append (hclosing container)))
  | item _ hspace ih => exact ih.append (isPlain_space hspace)
  | @field key space space' text space'' numerals hkey hspace hspace' _ hspace'' ih =>
    have hentry := (isPlain_string hkey).append ((isPlain_space hspace).append
      (hcolon.append ((isPlain_space hspace').append (ih.append (isPlain_space hspace'')))))
    simpa using hentry
  | last _ ih => exact ih
  | next _ hspace _ ih ihrest =>
    exact ih.append (hcomma.append ((isPlain_space hspace).append ihrest))

def notFiniteWords : List String :=
  ["NaN", "Infinity", "-Infinity"]

/-- Outside its strings, a JSON text has none of the words for numbers that are not finite. -/
theorem not_infix_of_isText {text : List Char} {numerals : List Numeral} (h : IsText text numerals) :
    ∀ word ∈ notFiniteWords, ¬ word.toList <:+: outside false text := by
  obtain ⟨hspace, hvalue, hspace'⟩ := h
  have hplain := (isPlain_space hspace).append
    ((isPlain_of_spells hvalue).append (isPlain_space hspace'))
  obtain ⟨front, hfront, hcapitals⟩ := hplain []
  rw [List.append_nil, outside, List.append_nil] at hfront
  rw [hfront]
  intro word hword hfound
  have hletter : ∀ word ∈ notFiniteWords, ∃ c ∈ word.toList, c = 'N' ∨ c = 'I' := by
    simp [notFiniteWords]
  obtain ⟨c, hc, hcapital⟩ := hletter word hword
  have hne := hcapitals c (hfound.subset hc)
  rcases hcapital with rfl | rfl
  · exact hne.1 rfl
  · exact hne.2 rfl

end Grammar

end Schematic.Json
