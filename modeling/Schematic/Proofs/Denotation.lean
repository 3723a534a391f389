import Schematic.Proofs.Hereditary
import Schematic.Proofs.Nearness
import Schematic.Proofs.WrittenNumber

/-!
# What JSON texts denote

Each rule of the grammar has a meaning: a word its value, a whole numeral its integer, any other
numeral the nearest double, a string its characters, an array its items and an object its
fields, where a repeated key has its first place and its last value. A text of the grammar
denotes a value unless a whole numeral has too many digits, or a string has half of a surrogate
pair, which is no character.
-/

namespace Schematic.Json

/-! ## UTF-16 units -/

namespace Reader

/-- A valid code point is the code of its character. -/
theorem toNat_ofNat {n : Nat} (h : n.isValidChar) : (Char.ofNat n).toNat = n := by
  rw [Char.ofNat, dif_pos h]
  rfl

theorem hexValue?_lt {c : Char} {n : Nat} (h : hexValue? c = some n) : n < 16 := by
  have hle {c d : Char} (h : c ≤ d) : c.toNat ≤ d.toNat := h
  have hnine : '9'.toNat = '0'.toNat + 9 := rfl
  have hf : 'f'.toNat = 'a'.toNat + 5 := rfl
  have hF : 'F'.toNat = 'A'.toNat + 5 := rfl
  unfold hexValue? at h
  split_ifs at h with hdecimal hlower hupper
  · obtain rfl := Option.some.inj h
    have hbound := hle hdecimal.2
    omega
  · obtain rfl := Option.some.inj h
    have hbound := hle hlower.2
    omega
  · obtain rfl := Option.some.inj h
    have hbound := hle hupper.2
    omega

/-- Four hexadecimal digits write a number below 65536. -/
theorem unit?_lt {p q r s : Char} {unit : Nat} (h : unit? p q r s = some unit) :
    unit < 0x10000 := by
  obtain ⟨a, ha, h⟩ := Option.bind_eq_some_iff.mp h
  obtain ⟨b, hb, h⟩ := Option.bind_eq_some_iff.mp h
  obtain ⟨c, hc, h⟩ := Option.bind_eq_some_iff.mp h
  obtain ⟨d, hd, h⟩ := Option.bind_eq_some_iff.mp h
  obtain rfl := Option.some.inj h
  have ha := hexValue?_lt ha
  have hb := hexValue?_lt hb
  have hc := hexValue?_lt hc
  have hd := hexValue?_lt hd
  omega

/-- A unit that is no surrogate is a character. -/
theorem toNat_ofNat_unit {unit : Nat} (hunit : unit < 0x10000)
    (hhigh : ¬ isHighSurrogate unit = true) (hlow : ¬ isLowSurrogate unit = true) :
    (Char.ofNat unit).toNat = unit := by
  apply toNat_ofNat
  simp only [isHighSurrogate, isLowSurrogate, Bool.and_eq_true, decide_eq_true_eq] at hhigh hlow
  unfold Nat.isValidChar
  omega

/-- A surrogate pair is a character. -/
theorem toNat_joinSurrogates {high low : Nat} (hhigh : isHighSurrogate high = true)
    (hlow : isLowSurrogate low = true) :
    (joinSurrogates high low).toNat = 0x10000 + (high - 0xD800) * 0x400 + (low - 0xDC00) := by
  apply toNat_ofNat
  simp only [isHighSurrogate, isLowSurrogate, Bool.and_eq_true, decide_eq_true_eq] at hhigh hlow
  unfold Nat.isValidChar
  omega

end Reader

namespace Grammar

/-! ## Numerals -/

/-- A numeral with digits that are not too many for an integer, if it is one. -/
def Numeral.IsConvertible (numeral : Numeral) : Prop :=
  ¬ numeral.IsFractional → numeral.whole.length ≤ integerDigitLimit

/-- The value of a numeral: an integer, or the double nearest to the number written. -/
inductive Numeral.Denotes (numeral : Numeral) : Json → Prop where
  | whole (hwhole : ¬ numeral.IsFractional) (hlength : numeral.whole.length ≤ integerDigitLimit) :
      Denotes numeral
        (.int (Reader.signedValue numeral.negative (Reader.natValue numeral.whole)))
  | fractional {x : Double} (hfractional : numeral.IsFractional)
      (hnearest : x.IsNearest numeral.negative numeral.magnitude) : Denotes numeral (.float x)

/-- The reader of numerals computes what they denote. -/
theorem Numeral.value?_eq_some_iff {numeral : Numeral} {value : Json} :
    numeral.value? = some value ↔ numeral.Denotes value := by
  by_cases hfractional : numeral.IsFractional
  · rw [value?_of_isFractional hfractional rfl, Option.some.injEq]
    constructor
    · rintro rfl
      exact .fractional hfractional (Double.isNearest_ofDecimal _ _ _)
    · intro h
      cases h with
      | whole hwhole => exact absurd hfractional hwhole
      | fractional _ hnearest => rw [Double.isNearest_iff.mp hnearest]
  · obtain ⟨hfraction, hexponent⟩ := not_not.mp hfractional
    unfold value? Reader.numeral
    rw [hfraction, hexponent]
    dsimp only
    constructor
    · intro h
      split at h
      · cases h
      · rename_i hlength
        obtain rfl := Option.some.inj h
        exact .whole hfractional (Nat.le_of_not_lt hlength)
    · intro h
      cases h with
      | whole _ hlength => rw [if_neg (Nat.not_lt.mpr hlength)]
      | fractional h => exact absurd h hfractional

theorem Numeral.Denotes.isConvertible {numeral : Numeral} {value : Json}
    (h : numeral.Denotes value) : numeral.IsConvertible := by
  intro hwhole
  cases h with
  | whole _ hlength => exact hlength
  | fractional hfractional _ => exact absurd hfractional hwhole

/-- A numeral that can be converted denotes a value. -/
theorem Numeral.IsConvertible.exists_denotes {numeral : Numeral} (h : numeral.IsConvertible) :
    ∃ value, numeral.Denotes value := by
  by_cases hfractional : numeral.IsFractional
  · exact ⟨_, .fractional hfractional (Double.isNearest_ofDecimal _ _ _)⟩
  · exact ⟨_, .whole hfractional (h hfractional)⟩

/-! ## Strings -/

/-- The characters that the letters of short escapes stand for. -/
def escapes : List (Char × Char) :=
  [('\x22', '\x22'), ('\x5c', '\x5c'), ('/', '/'), ('b', '\x08'), ('f', '\x0c'), ('n', '\n'),
    ('r', '\r'), ('t', '\t')]

/-- The characters that the text between the quotes of a string stands for. -/
inductive DenotesString : List Char → List Char → Prop where
  | nil : DenotesString [] []
  | plain {c : Char} {text content : List Char} (hcontrol : 0x20 ≤ c.toNat) (hquote : c ≠ '\x22')
      (hbackslash : c ≠ '\x5c') (h : DenotesString text content) :
      DenotesString (c :: text) (c :: content)
  | short {letter c : Char} {text content : List Char} (hletter : (letter, c) ∈ escapes)
      (h : DenotesString text content) :
      DenotesString ('\x5c' :: letter :: text) (c :: content)
  | unit {p q r s c : Char} {text content : List Char}
      (hunit : Reader.unit? p q r s = some c.toNat) (h : DenotesString text content) :
      DenotesString ('\x5c' :: 'u' :: p :: q :: r :: s :: text) (c :: content)
  | pair {p q r s p' q' r' s' c : Char} {high low : Nat} {text content : List Char}
      (hhigh : Reader.unit? p q r s = some high) (hlow : Reader.unit? p' q' r' s' = some low)
      (hhigh' : Reader.isHighSurrogate high = true) (hlow' : Reader.isLowSurrogate low = true)
      (hcode : c.toNat = 0x10000 + (high - 0xD800) * 0x400 + (low - 0xDC00))
      (h : DenotesString text content) :
      DenotesString ('\x5c' :: 'u' :: p :: q :: r :: s ::
        '\x5c' :: 'u' :: p' :: q' :: r' :: s' :: text) (c :: content)

theorem isHexDigit_of_unit? {p q r s : Char} {unit : Nat} (h : Reader.unit? p q r s = some unit) :
    IsHexDigit p ∧ IsHexDigit q ∧ IsHexDigit r ∧ IsHexDigit s := by
  obtain ⟨_, hp, h⟩ := Option.bind_eq_some_iff.mp h
  obtain ⟨_, hq, h⟩ := Option.bind_eq_some_iff.mp h
  obtain ⟨_, hr, h⟩ := Option.bind_eq_some_iff.mp h
  obtain ⟨_, hs, -⟩ := Option.bind_eq_some_iff.mp h
  exact ⟨Option.isSome_of_eq_some hp, Option.isSome_of_eq_some hq, Option.isSome_of_eq_some hr,
    Option.isSome_of_eq_some hs⟩

/-- What denotes a string is spelled like one. -/
theorem DenotesString.spells {text content : List Char} (h : DenotesString text content) :
    SpellsString text := by
  have hletters : ∀ entry ∈ escapes, entry.1 ∈ escapeLetters := by decide
  induction h with
  | nil => exact .nil
  | plain hcontrol hquote hbackslash _ ih => exact .plain hcontrol hquote hbackslash ih
  | short hletter _ ih => exact .short (hletters _ hletter) ih
  | unit hunit _ ih =>
    obtain ⟨hp, hq, hr, hs⟩ := isHexDigit_of_unit? hunit
    exact .unit hp hq hr hs ih
  | pair hhigh hlow _ _ _ _ ih =>
    obtain ⟨hp, hq, hr, hs⟩ := isHexDigit_of_unit? hhigh
    obtain ⟨hp', hq', hr', hs'⟩ := isHexDigit_of_unit? hlow
    exact .unit hp hq hr hs (.unit hp' hq' hr' hs' ih)

/-! ## Values -/

def wordValues : List (List Char × Json) :=
  [("null".toList, .null), ("true".toList, .bool true), ("false".toList, .bool false)]

@[reducible]
def Container.Entry : Container → Type
  | array => Json
  | object => String × Json

def Container.value : (container : Container) → List container.Entry → Json
  | array, items => .arr items
  | object, fields => .obj (Dict.ofList fields)

@[reducible]
def Part.Meaning : Part → Type
  | value => Json
  | entry container => container.Entry
  | entries container => List container.Entry

/-- A text stands for a value, an entry or several entries. -/
inductive Denotes : (part : Part) → List Char → part.Meaning → Prop where
  | word {word : List Char} {value : Json} (hword : (word, value) ∈ wordValues) :
      Denotes .value word value
  | numeral {numeral : Numeral} {text : List Char} {value : Json}
      (h : SpellsNumeral numeral text) (hvalue : numeral.Denotes value) :
      Denotes .value text value
  | string {text content : List Char} (h : DenotesString text content) :
      Denotes .value ('\x22' :: (text ++ ['\x22'])) (.str (String.ofList content))
  | empty {container : Container} {space : List Char} (hspace : IsSpace space) :
      Denotes .value (container.opening :: (space ++ [container.closing])) (container.value [])
  | full {container : Container} {space text : List Char} {entries : List container.Entry}
      (hspace : IsSpace space) (h : Denotes (.entries container) text entries) :
      Denotes .value (container.opening :: (space ++ (text ++ [container.closing])))
        (container.value entries)
  | item {text space : List Char} {value : Json} (h : Denotes .value text value)
      (hspace : IsSpace space) : Denotes (.entry .array) (text ++ space) value
  | field {key content space space' text space'' : List Char} {value : Json}
      (hkey : DenotesString key content) (hspace : IsSpace space) (hspace' : IsSpace space')
      (h : Denotes .value text value) (hspace'' : IsSpace space'') :
      Denotes (.entry .object)
        ('\x22' :: (key ++ '\x22' :: (space ++ ':' :: (space' ++ (text ++ space'')))))
        (String.ofList content, value)
  | last {container : Container} {text : List Char} {entry : container.Entry}
      (h : Denotes (.entry container) text entry) : Denotes (.entries container) text [entry]
  | next {container : Container} {text space rest : List Char} {entry : container.Entry}
      {others : List container.Entry} (h : Denotes (.entry container) text entry)
      (hspace : IsSpace space) (hrest : Denotes (.entries container) rest others) :
      Denotes (.entries container) (text ++ ',' :: (space ++ rest)) (entry :: others)

inductive DenotesText : List Char → Json → Prop where
  | mk {space text space' : List Char} {value : Json} (hspace : IsSpace space)
      (h : Denotes .value text value) (hspace' : IsSpace space') :
      DenotesText (space ++ (text ++ space')) value

/-! ## Texts of the grammar -/

/-- An entry of a container holds a value with a property. -/
def Container.Holds (P : Json → Prop) : (container : Container) → container.Entry → Prop
  | array, item => P item
  | object, field => P field.2

/-- The values that a part stands for have a property. -/
def Part.Holds (P : Json → Prop) : (part : Part) → part.Meaning → Prop
  | value, read => P read
  | entry container, read => container.Holds P read
  | entries container, read => ∀ entry ∈ read, container.Holds P entry

/-- A container inherits what all its entries have. -/
theorem Container.holds_value {P : Json → Prop} (hP : Hereditary P) {container : Container}
    {entries : List container.Entry} (h : ∀ entry ∈ entries, container.Holds P entry) :
    P (container.value entries) := by
  cases container with
  | array => exact hP.arr h
  | object => exact hP.ofList h

/-- A text that stands for something is spelled with numerals that can be converted, and takes over
the hereditary properties of their values. -/
inductive Denotes.Spelled {part : Part} (text : List Char) (meaning : part.Meaning) : Prop where
  | mk {numerals : List Numeral} (hspells : Spells part text numerals)
      (hconvertible : ∀ numeral ∈ numerals, numeral.IsConvertible)
      (hholds : ∀ {P : Json → Prop}, Hereditary P →
        (∀ numeral ∈ numerals, ∀ value, numeral.Denotes value → P value) → part.Holds P meaning)

/-- What denotes something has the grammar of the format. -/
theorem Denotes.spelled {part : Part} {text : List Char} {meaning : part.Meaning}
    (h : Denotes part text meaning) : Denotes.Spelled text meaning := by
  have hnone : ∀ numeral ∈ ([] : List Numeral), numeral.IsConvertible := List.forall_mem_nil _
  induction h with
  | @word word value hword =>
    have hwords : ∀ entry ∈ wordValues, entry.1 ∈ words := by simp [wordValues, words]
    refine .mk (.word (hwords _ hword)) hnone fun {P} hP _ ↦ ?_
    have hvalues : ∀ entry ∈ wordValues, P entry.2 := by
      simp [wordValues, hP.null, hP.bool]
    exact hvalues _ hword
  | @numeral numeral text value h hvalue =>
    refine .mk (.numeral h) (List.forall_mem_singleton.mpr hvalue.isConvertible) fun _ hall ↦ ?_
    exact hall numeral List.mem_cons_self value hvalue
  | string h => exact .mk (.string h.spells) hnone fun hP _ ↦ hP.str _
  | empty hspace =>
    exact .mk (.empty hspace) hnone fun hP _ ↦ Container.holds_value hP (List.forall_mem_nil _)
  | full hspace _ ih =>
    obtain ⟨hspells, hconvertible, hholds⟩ := ih
    exact .mk (.full hspace hspells) hconvertible fun hP hall ↦
      Container.holds_value hP (hholds hP hall)
  | item _ hspace ih =>
    obtain ⟨hspells, hconvertible, hholds⟩ := ih
    exact .mk (.item hspells hspace) hconvertible hholds
  | field hkey hspace hspace' _ hspace'' ih =>
    obtain ⟨hspells, hconvertible, hholds⟩ := ih
    exact .mk (.field hkey.spells hspace hspace' hspells hspace'') hconvertible hholds
  | last _ ih =>
    obtain ⟨hspells, hconvertible, hholds⟩ := ih
    exact .mk (.last hspells) hconvertible fun hP hall ↦
      List.forall_mem_singleton.mpr (hholds hP hall)
  | next _ hspace _ ih ihrest =>
    obtain ⟨hspells, hconvertible, hholds⟩ := ih
    obtain ⟨hspells', hconvertible', hholds'⟩ := ihrest
    refine .mk (.next hspells hspace hspells')
      (List.forall_mem_append.mpr ⟨hconvertible, hconvertible'⟩) fun hP hall ↦ ?_
    obtain ⟨hfirst, hothers⟩ := List.forall_mem_append.mp hall
    exact List.forall_mem_cons.mpr ⟨hholds hP hfirst, hholds' hP hothers⟩

/-- A numeral in the range of doubles denotes no infinity. -/
theorem Numeral.Denotes.isFinite {numeral : Numeral} {value : Json} (h : numeral.Denotes value)
    (hrange : numeral.InRange) : value.IsFinite := by
  cases h with
  | whole => exact isFinite_int _
  | fractional hfractional hnearest =>
    rw [isFinite_float_iff, Double.isNearest_iff.mp hnearest]
    exact Double.isFinite_ofDecimal (hrange.resolve_left hfractional)

theorem Numeral.Denotes.hasDistinctKeys {numeral : Numeral} {value : Json}
    (h : numeral.Denotes value) : value.HasDistinctKeys := by
  cases h with
  | whole => exact hereditary_hasDistinctKeys.int _
  | fractional => exact hasDistinctKeys_float _

/-- A text that denotes a value is a JSON text. Its value is finite where its numerals are in range,
and the keys in it are distinct. -/
theorem DenotesText.isText {text : List Char} {value : Json} (h : DenotesText text value) :
    ∃ numerals, IsText text numerals ∧ (∀ numeral ∈ numerals, numeral.IsConvertible) ∧
      ((∀ numeral ∈ numerals, numeral.InRange) → value.IsFinite) ∧ value.HasDistinctKeys := by
  cases h with
  | mk hspace h hspace' =>
    obtain ⟨hspells, hconvertible, hholds⟩ := h.spelled
    refine ⟨_, .mk hspace hspells hspace', hconvertible, fun hrange ↦ ?_, ?_⟩
    · exact hholds hereditary_isFinite fun numeral hmem _ hvalue ↦ hvalue.isFinite (hrange numeral hmem)
    · exact hholds hereditary_hasDistinctKeys fun _ _ _ hvalue ↦ hvalue.hasDistinctKeys

end Grammar

end Schematic.Json
