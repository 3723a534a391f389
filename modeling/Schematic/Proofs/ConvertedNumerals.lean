import Schematic.Number.Spelling
import Schematic.Proofs.LongestNumerals
import Schematic.Proofs.Nearness
import Schematic.Proofs.WrittenNumber

/-!
# Conversion of numerals

The longest numeral of a text is one that conversions of texts accept, in the digits of any
script: in ASCII it has neither blanks nor underscores, and it spells the same number. So the
number of a tag is the double nearest to the number that is spelled, as an integer where it is
integral, and nothing that follows the numeral counts.
-/

namespace Schematic

namespace Text

/-! ## Digits of any script -/

/-- A digit lies at its value above the zero of its script. -/
theorem exists_zero {c : Char} {n : Nat} (h : digitValue? c = some n) :
    ∃ start ∈ decimalZeros, start ≤ c.toNat ∧ c.toNat ≤ start + 9 ∧ n = c.toNat - start := by
  obtain ⟨start, hfound, rfl⟩ := Option.map_eq_some_iff.mp h
  have hbounds := List.find?_some hfound
  rw [Bool.and_eq_true, decide_eq_true_eq, decide_eq_true_eq] at hbounds
  exact ⟨start, List.mem_of_find?_eq_some hfound, hbounds.1, hbounds.2, rfl⟩

theorem digitValue?_lt {c : Char} {n : Nat} (h : digitValue? c = some n) : n < 10 := by
  obtain ⟨start, -, hlower, hupper, rfl⟩ := exists_zero h
  omega

/-- No run of digits meets the blanks. -/
theorem isBlank_of_digitValue? {c : Char} {n : Nat} (h : digitValue? c = some n) :
    isBlank c = false := by
  obtain ⟨start, hstart, hlower, hupper, -⟩ := exists_zero h
  have hapart : ∀ start ∈ decimalZeros, ∀ range ∈ blankRanges,
      start + 9 < range.1 ∨ range.2 < start := by decide
  by_contra hblank
  obtain ⟨range, hrange, hbounds⟩ := List.any_eq_true.mp (Bool.not_eq_false _ ▸ hblank)
  rw [Bool.and_eq_true, decide_eq_true_eq, decide_eq_true_eq] at hbounds
  rcases hapart start hstart range hrange with hless | hless <;> omega

theorem digitValue?_digitChar {n : Nat} (h : n < 10) : digitValue? (Nat.digitChar n) = some n := by
  have hall : ∀ n < 10, digitValue? (Nat.digitChar n) = some n := by decide
  exact hall n h

/-- In ASCII there is one run of digits. -/
theorem digitChar_of_ascii {c : Char} {n : Nat} (h : digitValue? c = some n)
    (hascii : c.toNat < 0x80) : c = Nat.digitChar n := by
  obtain ⟨start, hstart, hlower, hupper, rfl⟩ := exists_zero h
  have hzero : ∀ start ∈ decimalZeros, start < 0x80 → start = 0x30 := by decide
  obtain rfl := hzero start hstart (by omega)
  have hall : ∀ k < 10, Char.ofNat (0x30 + k) = Nat.digitChar k := by decide
  have hchar := hall (c.toNat - 0x30) (by omega)
  rw [Nat.add_sub_cancel' hlower, Char.ofNat_toNat] at hchar
  exact hchar

/-- Conversions to numbers see a digit of any script as the ASCII digit of its value. -/
theorem inAscii_eq {c : Char} {n : Nat} (h : digitValue? c = some n) :
    Spelling.inAscii c = Nat.digitChar n := by
  unfold Spelling.inAscii
  split
  · rename_i hascii
    exact digitChar_of_ascii h hascii
  · rw [isBlank_of_digitValue? h, if_neg Bool.false_ne_true, h]
    rfl

/-- The value of digits depends on the values of the single digits alone. -/
theorem digitsValue_congr {cs cs' : List Char} (h : cs.map digitValue? = cs'.map digitValue?) :
    digitsValue cs = digitsValue cs' := by
  have hfold (cs : List Char) : digitsValue cs =
      (cs.map digitValue?).foldl (fun n value ↦ 10 * n + value.getD 0) 0 := by
    rw [List.foldl_map]
    rfl
  rw [hfold, hfold, h]

end Text

open Text
open Json.Reader (signedValue natValue)

namespace Double

theorem negate_pack (mantissa : Nat) (exponent : Int) :
    (pack false mantissa exponent).negate = pack true mantissa exponent := by
  unfold pack
  split <;> rfl

/-- Rounding is symmetric, so a sign may be put on afterwards. -/
theorem negate_ofQuotient (num den : Nat) :
    (ofQuotient false num den).negate = ofQuotient true num den := by
  unfold ofQuotient
  split
  · rfl
  · dsimp only
    split <;> exact negate_pack _ _

theorem withSign_ofDecimal (negative : Bool) (digits : Nat) (exponent : Int) :
    Spelling.withSign negative (ofDecimal false digits exponent) =
      ofDecimal negative digits exponent := by
  cases negative with
  | false => exact if_neg Bool.false_ne_true
  | true =>
    rw [Spelling.withSign, if_pos rfl, ofDecimal_eq_ofQuotient, ofDecimal_eq_ofQuotient]
    exact negate_ofQuotient _ _

end Double

namespace Tag

/-! ## In ASCII -/

section

variable {digits : List Char}

theorem exists_digitChar {c : Char} (h : isDecimalDigit c = true) :
    ∃ n < 10, digitValue? c = some n ∧ Spelling.inAscii c = Nat.digitChar n := by
  obtain ⟨n, hn⟩ := Option.isSome_iff_exists.mp h
  exact ⟨n, digitValue?_lt hn, hn, inAscii_eq hn⟩

/-- What is computed of the ten digits holds of each digit in ASCII. -/
theorem forall_inAscii {P : Char → Prop} (hP : ∀ n < 10, P (Nat.digitChar n))
    (h : ∀ c ∈ digits, isDecimalDigit c = true) : ∀ c ∈ digits.map Spelling.inAscii, P c := by
  intro c hc
  obtain ⟨d, hd, rfl⟩ := List.mem_map.mp hc
  obtain ⟨n, hn, -, hchar⟩ := exists_digitChar (h d hd)
  rw [hchar]
  exact hP n hn

/-- Digits keep their value where they are turned into ASCII. -/
theorem digitsValue_inAscii (h : ∀ c ∈ digits, isDecimalDigit c = true) :
    digitsValue (digits.map Spelling.inAscii) = digitsValue digits := by
  apply digitsValue_congr
  rw [List.map_map]
  refine List.map_congr_left fun c hc ↦ ?_
  obtain ⟨n, hn, hvalue, hchar⟩ := exists_digitChar (h c hc)
  rw [Function.comp_apply, hchar, digitValue?_digitChar hn, hvalue]

end

/-! ## Conversion -/

theorem decimalSign_append {negative : Bool} {sign rest : List Char} (hsign : SpellsSign negative sign)
    (hrest : ∀ c ∈ rest.head?, c ≠ '-' ∧ c ≠ '+') :
    Decimal.sign (sign ++ rest) = (negative, rest) :=
  takeSign_append hsign hrest

theorem sign_inAscii {negative : Bool} {sign : List Char} (hsign : SpellsSign negative sign) :
    sign.map Spelling.inAscii = sign := by
  cases hsign <;> rfl

/-- Digits without underscores are one group. -/
theorem digitsAfter_append {isDigit : Char → Bool} (hunderscore : isDigit '_' = false)
    {digits rest : List Char} (hdigits : ∀ c ∈ digits, isDigit c = true)
    (hrest : ∀ c ∈ rest.head?, ¬ isDigit c = true ∧ c ≠ '_') :
    digitsAfter isDigit (digits ++ rest) = some (digits, rest) := by
  induction digits with
  | nil =>
    cases rest with
    | nil => rfl
    | cons c rest =>
      obtain ⟨hdigit, hne⟩ := hrest c rfl
      rw [List.nil_append, digitsAfter.eq_3, if_neg hdigit]
      · exact fun _ _ hc _ ↦ hne hc
      · exact fun hc _ ↦ hne hc
  | cons c digits ih =>
    obtain ⟨hc, hothers⟩ := List.forall_mem_cons.mp hdigits
    have hne : c ≠ '_' := by
      rintro rfl
      rw [hunderscore] at hc
      cases hc
    rw [List.cons_append, digitsAfter.eq_3, if_pos hc, ih hothers]
    · rfl
    · exact fun _ _ hc _ ↦ hne hc
    · exact fun hc _ ↦ hne hc

/-- A run of digits without underscores is read as it stands. -/
theorem groupedDigits_append {isDigit : Char → Bool} (hunderscore : isDigit '_' = false)
    {digits rest : List Char} (hne : digits ≠ []) (hdigits : ∀ c ∈ digits, isDigit c = true)
    (hrest : ∀ c ∈ rest.head?, ¬ isDigit c = true ∧ c ≠ '_') :
    groupedDigits isDigit (digits ++ rest) = some (digits, rest) := by
  obtain ⟨c, others, rfl⟩ := List.exists_cons_of_ne_nil hne
  obtain ⟨hc, hothers⟩ := List.forall_mem_cons.mp hdigits
  rw [List.cons_append, groupedDigits, if_pos hc, digitsAfter_append hunderscore hothers hrest]
  rfl

theorem decimalDigits_append {digits rest : List Char} (hdigits : ∀ c ∈ digits, c.isDigit = true)
    (hrest : ∀ c ∈ rest.head?, ¬ c.isDigit = true ∧ c ≠ '_') :
    Decimal.digits (digits ++ rest) = some (digits, rest) := by
  cases digits with
  | nil =>
    cases rest with
    | nil => rfl
    | cons c rest => rw [List.nil_append, Decimal.digits, if_neg (hrest c rfl).1]
  | cons c digits =>
    rw [List.cons_append, Decimal.digits, if_pos (hdigits c List.mem_cons_self)]
    exact groupedDigits_append (by decide) (List.cons_ne_nil _ _) hdigits hrest

theorem isDigit_inAscii {digits : List Char} (h : ∀ c ∈ digits, isDecimalDigit c = true) :
    ∀ c ∈ digits.map Spelling.inAscii, c.isDigit = true :=
  forall_inAscii (by decide) h

theorem head_inAscii_ne {digits rest : List Char} (h : IsDigits digits) :
    ∀ c ∈ (digits.map Spelling.inAscii ++ rest).head?, c ≠ '-' ∧ c ≠ '+' := by
  obtain ⟨first, others, rfl⟩ := List.exists_cons_of_ne_nil h.1
  intro c hc
  obtain rfl := Option.some.inj hc
  exact forall_inAscii (P := fun c ↦ c ≠ '-' ∧ c ≠ '+') (by decide) h.2 _
    (List.mem_map_of_mem List.mem_cons_self)

/-- A written exponent is read to its end, and one that is left out counts as zero. -/
theorem exponentOf_inAscii {power : ℤ} {exponent : List Char} (h : SpellsPower power exponent) :
    ∃ value, Decimal.exponentOf (exponent.map Spelling.inAscii) = some (value, []) ∧
      value.getD 0 = power := by
  cases h with
  | none => exact ⟨none, rfl, rfl⟩
  | @some letter negative sign digits hletter hsign hdigits =>
    refine ⟨some (signedValue negative (digitsValue digits)), ?_, rfl⟩
    have hletters : ∀ letter ∈ ['e', 'E'], Spelling.inAscii letter = letter ∧
        (letter = 'e' || letter = 'E') = true := List.forall_iff_forall_mem.mp (by decide)
    obtain ⟨hascii, heither⟩ := hletters letter hletter
    have hread := @decimalDigits_append _ [] (isDigit_inAscii hdigits.2) (by simp)
    have hhead := @head_inAscii_ne _ [] hdigits
    have hsome : ¬ (digits.map Spelling.inAscii).isEmpty = true := by
      rw [List.isEmpty_iff, List.map_eq_nil_iff]
      exact hdigits.1
    rw [List.append_nil] at hread hhead
    rw [List.map_cons, List.map_append, hascii, sign_inAscii hsign, Decimal.exponentOf,
      if_pos heither, decimalSign_append hsign hhead]
    dsimp only
    rw [hread, Option.map_some, if_neg hsome, digitsValue_inAscii hdigits.2]
    rfl

theorem head_exponent_inAscii {power : ℤ} {exponent : List Char} (h : SpellsPower power exponent) :
    ∀ c ∈ (exponent.map Spelling.inAscii).head?, ¬ c.isDigit = true ∧ c ≠ '_' ∧ c ≠ '.' := by
  cases h with
  | none => simp
  | @some letter negative sign digits hletter hsign hdigits =>
    have hletters : ∀ letter ∈ ['e', 'E'], ¬ (Spelling.inAscii letter).isDigit = true ∧
        Spelling.inAscii letter ≠ '_' ∧ Spelling.inAscii letter ≠ '.' :=
      List.forall_iff_forall_mem.mp (by decide)
    intro c hc
    obtain rfl := Option.some.inj hc
    exact hletters letter hletter

/-- A numeral without a point has no fraction. -/
theorem read_of_whole {cs whole rest : List Char} {value : Option Int}
    (hwhole : Decimal.digits cs = some (whole, rest)) (hpoint : '.' ∉ rest.head?)
    (hexponent : Decimal.exponentOf rest = some (value, [])) :
    Decimal.read cs = some (⟨whole, none, value⟩, []) := by
  rw [Decimal.read, hwhole, Option.bind_eq_bind, Option.bind_some]
  dsimp only
  split
  · exact absurd rfl hpoint
  · rw [Option.bind_eq_bind, Option.bind_some, hexponent]
    rfl

/-- After a point stands a fraction, which may be empty. -/
theorem read_of_pointed {cs whole places rest rest' : List Char} {value : Option Int}
    (hwhole : Decimal.digits cs = some (whole, '.' :: rest))
    (hplaces : Decimal.digits rest = some (places, rest'))
    (hexponent : Decimal.exponentOf rest' = some (value, [])) :
    Decimal.read cs = some (⟨whole, some places, value⟩, []) := by
  simp only [Decimal.read, hwhole, hplaces, hexponent, Option.bind_eq_bind, Option.bind_some,
    Option.map_some]
  rfl

/-- The digits of a numeral and what follows the point are read back from ASCII. -/
theorem read_inAscii {whole fraction places exponent : List Char} {power : ℤ}
    (hplaces : SpellsPlaces whole fraction places) (hpower : SpellsPower power exponent) :
    ∃ numeral : Decimal, Decimal.read ((places ++ exponent).map Spelling.inAscii) =
        some (numeral, []) ∧ numeral.hasDigits = true ∧
      numeral.toDouble =
        Double.ofDecimal false (digitsValue (whole ++ fraction)) (power - fraction.length) := by
  obtain ⟨value, hexponent, hvalue⟩ := exponentOf_inAscii hpower
  have hend := head_exponent_inAscii hpower
  have hstop (rest : List Char) : ∀ c ∈ ('.' :: rest).head?, ¬ c.isDigit = true ∧ c ≠ '_' := by
    intro c hc
    obtain rfl := Option.some.inj hc
    decide
  have hfractionRead {fraction : List Char} (h : ∀ c ∈ fraction, isDecimalDigit c = true) :=
    decimalDigits_append (isDigit_inAscii h) fun c hc ↦ ⟨(hend c hc).1, (hend c hc).2.1⟩
  have hnumeral {whole fraction : List Char} (places : Option (List Char))
      (hwhole : ∀ c ∈ whole, isDecimalDigit c = true)
      (hfraction : ∀ c ∈ fraction, isDecimalDigit c = true) (hne : whole ≠ [] ∨ fraction ≠ [])
      (hplaces : places.getD [] = fraction.map Spelling.inAscii) :
      (Decimal.mk (whole.map Spelling.inAscii) places value).hasDigits = true ∧
        (Decimal.mk (whole.map Spelling.inAscii) places value).toDouble =
          Double.ofDecimal false (digitsValue (whole ++ fraction)) (power - fraction.length) := by
    unfold Decimal.hasDigits Decimal.toDouble Decimal.places
    dsimp only
    rw [hplaces, hvalue, ← List.map_append, List.length_map,
      digitsValue_inAscii (List.forall_mem_append.mpr ⟨hwhole, hfraction⟩)]
    refine ⟨?_, rfl⟩
    rw [Bool.not_eq_true', List.isEmpty_eq_false_iff, Ne, List.map_eq_nil_iff,
      List.append_eq_nil_iff]
    exact fun h ↦ hne.elim (absurd h.1) (absurd h.2)
  cases hplaces with
  | whole hwhole =>
    obtain ⟨hdigits, hdouble⟩ := hnumeral none hwhole.2 (List.forall_mem_nil _)
      (.inl hwhole.1) rfl
    refine ⟨_, ?_, hdigits, hdouble⟩
    have hread := decimalDigits_append (isDigit_inAscii hwhole.2)
      fun c hc ↦ ⟨(hend c hc).1, (hend c hc).2.1⟩
    rw [List.map_append]
    exact read_of_whole hread (fun hpoint ↦ (hend '.' hpoint).2.2 rfl) hexponent
  | @pointed _ fraction hwhole hfraction =>
    obtain ⟨hdigits, hdouble⟩ := hnumeral (some (fraction.map Spelling.inAscii)) hwhole.2
      hfraction (.inl hwhole.1) rfl
    refine ⟨_, ?_, hdigits, hdouble⟩
    have hread := decimalDigits_append (isDigit_inAscii hwhole.2)
      (hstop (fraction.map Spelling.inAscii ++ exponent.map Spelling.inAscii))
    rw [List.append_assoc, List.map_append, List.cons_append, List.map_cons, List.map_append]
    exact read_of_pointed hread (hfractionRead hfraction) hexponent
  | @fraction fraction hfraction =>
    obtain ⟨hdigits, hdouble⟩ := hnumeral (some (fraction.map Spelling.inAscii))
      (List.forall_mem_nil _) hfraction.2 (.inr hfraction.1) rfl
    refine ⟨_, ?_, hdigits, hdouble⟩
    have hread := decimalDigits_append (List.forall_mem_nil _)
      (hstop (fraction.map Spelling.inAscii ++ exponent.map Spelling.inAscii))
    rw [List.cons_append, List.map_cons, List.map_append]
    exact read_of_pointed hread (hfractionRead hfraction.2) hexponent

/-- No digit and no point begins the name of a magnitude. -/
theorem named?_eq_none {c : Char} {rest : List Char} (hi : c.toLower ≠ 'i') (hn : c.toLower ≠ 'n') :
    Spelling.named? (c :: rest) = none := by
  have hapart {first : Char} (hfirst : c.toLower ≠ first) (others : List Char) :
      (first :: others).isPrefixOf ((c :: rest).map Char.toLower) = false := by
    rw [List.map_cons, List.isPrefixOf_cons_cons, beq_eq_false_iff_ne.mpr hfirst.symm, Bool.false_and]
  have hinfinity : "infinity".toList = 'i' :: "nfinity".toList := rfl
  have hinf : "inf".toList = 'i' :: "nf".toList := rfl
  have hnan : "nan".toList = 'n' :: "an".toList := rfl
  unfold Spelling.named?
  simp only [List.findSome?_cons, List.findSome?_nil, hinfinity, hinf, hnan, hapart hi, hapart hn,
    Bool.false_eq_true, if_false]

/-- No numeral is taken for the name of an infinity or for one of not a number. -/
theorem named?_inAscii {whole fraction places exponent : List Char}
    (hplaces : SpellsPlaces whole fraction places) :
    Spelling.named? ((places ++ exponent).map Spelling.inAscii) = none := by
  have hdigits {digits rest : List Char} (h : IsDigits digits) :
      Spelling.named? ((digits ++ rest).map Spelling.inAscii) = none := by
    obtain ⟨first, others, rfl⟩ := List.exists_cons_of_ne_nil h.1
    have hfirst := forall_inAscii (P := fun c ↦ c.toLower ≠ 'i' ∧ c.toLower ≠ 'n') (by decide) h.2
      _ (List.mem_map_of_mem List.mem_cons_self)
    exact named?_eq_none hfirst.1 hfirst.2
  cases hplaces with
  | whole hwhole => exact hdigits hwhole
  | pointed hwhole _ =>
    rw [List.append_assoc]
    exact hdigits hwhole
  | fraction _ => exact named?_eq_none (by decide) (by decide)

/-! ## Trimming -/

theorem trimmed_of_forall {cs : List Char} (h : ∀ c ∈ cs, ¬ Spelling.isSpace c = true) :
    Spelling.trimmed cs = cs := by
  have hdrop {cs : List Char} (h : ∀ c ∈ cs, ¬ Spelling.isSpace c = true) :
      cs.dropWhile Spelling.isSpace = cs := by
    cases cs with
    | nil => rfl
    | cons c cs => exact List.dropWhile_cons_of_neg (h c List.mem_cons_self)
  rw [Spelling.trimmed, hdrop h, hdrop fun c hc ↦ h c (List.mem_reverse.mp hc), List.reverse_reverse]

/-- A text without spaces in ASCII. -/
def IsCompact (cs : List Char) : Prop :=
  ∀ c ∈ cs, ¬ Spelling.isSpace (Spelling.inAscii c) = true

theorem IsCompact.append {cs cs' : List Char} (h : IsCompact cs) (h' : IsCompact cs') :
    IsCompact (cs ++ cs') :=
  List.forall_mem_append.mpr ⟨h, h'⟩

theorem IsCompact.cons {c : Char} {cs : List Char} (hc : ¬ Spelling.isSpace (Spelling.inAscii c) = true)
    (h : IsCompact cs) : IsCompact (c :: cs) :=
  List.forall_mem_cons.mpr ⟨hc, h⟩

theorem isCompact_digits {digits : List Char} (h : ∀ c ∈ digits, isDecimalDigit c = true) :
    IsCompact digits := by
  intro c hc
  exact forall_inAscii (P := fun c ↦ ¬ Spelling.isSpace c = true) (by decide) h _
    (List.mem_map_of_mem hc)

theorem isCompact_sign {negative : Bool} {sign : List Char} (h : SpellsSign negative sign) :
    IsCompact sign := by
  cases h with
  | none => exact List.forall_mem_nil _
  | plus => exact List.forall_mem_singleton.mpr (by decide)
  | minus => exact List.forall_mem_singleton.mpr (by decide)

theorem isCompact_places {whole fraction places : List Char}
    (h : SpellsPlaces whole fraction places) : IsCompact places := by
  cases h with
  | whole hwhole => exact isCompact_digits hwhole.2
  | pointed hwhole hfraction =>
    exact (isCompact_digits hwhole.2).append (.cons (by decide) (isCompact_digits hfraction))
  | fraction hfraction => exact .cons (by decide) (isCompact_digits hfraction.2)

theorem isCompact_power {power : ℤ} {exponent : List Char} (h : SpellsPower power exponent) :
    IsCompact exponent := by
  cases h with
  | none => exact fun _ hc ↦ absurd hc List.not_mem_nil
  | @some letter _ _ _ hletter hsign hdigits =>
    have hletters : ∀ letter ∈ ['e', 'E'], ¬ Spelling.isSpace (Spelling.inAscii letter) = true :=
      List.forall_iff_forall_mem.mp (by decide)
    exact .cons (hletters letter hletter)
      ((isCompact_sign hsign).append (isCompact_digits hdigits.2))

theorem characters_of_isCompact {cs : List Char} (h : IsCompact cs) :
    Spelling.characters (String.ofList cs) = cs.map Spelling.inAscii := by
  rw [Spelling.characters, String.toList_ofList]
  exact trimmed_of_forall (List.forall_mem_map.mpr h)

/-! ## Converted numerals -/

/-- A numeral is accepted by the conversion to a double, and is rounded. -/
theorem real?_of_spellsDecimal {negative : Bool} {digits : Nat} {exponent : ℤ} {front : List Char}
    (h : SpellsDecimal negative digits exponent front) :
    Spelling.real? (Spelling.characters (String.ofList front)) =
      some (Double.ofDecimal negative digits exponent) := by
  cases h with | @mk sign whole fraction places exponent power hsign hplaces hpower
  obtain ⟨numeral, hread, hdigits, hdouble⟩ := read_inAscii hplaces hpower
  have hcompact := (isCompact_sign hsign).append
    ((isCompact_places hplaces).append (isCompact_power hpower))
  have hhead : ∀ c ∈ ((places ++ exponent).map Spelling.inAscii).head?, c ≠ '-' ∧ c ≠ '+' := by
    cases hplaces with
    | whole hwhole =>
      rw [List.map_append]
      exact head_inAscii_ne hwhole
    | pointed hwhole _ =>
      rw [List.append_assoc, List.map_append]
      exact head_inAscii_ne hwhole
    | fraction _ =>
      intro c hc
      obtain rfl := Option.some.inj hc
      decide
  have hmagnitude : Spelling.magnitude? ((places ++ exponent).map Spelling.inAscii) =
      some (numeral.toDouble, []) := by
    rw [Spelling.magnitude?, named?_inAscii hplaces, Option.none_or, hread, Option.filter_some,
      if_pos hdigits]
    rfl
  rw [characters_of_isCompact hcompact, List.map_append, sign_inAscii hsign, Spelling.real?,
    decimalSign_append hsign hhead]
  dsimp only
  rw [hmagnitude, hdouble]
  dsimp only
  rw [Double.withSign_ofDecimal]

/-- Digits alone bear no mark of another base. -/
theorem marked?_inAscii {digits : List Char} (h : ∀ c ∈ digits, isDecimalDigit c = true) :
    Spelling.marked? (digits.map Spelling.inAscii) = none := by
  have hmark := forall_inAscii (P := fun c ↦ c.toLower ≠ 'x' ∧ c.toLower ≠ 'o' ∧ c.toLower ≠ 'b')
    (by decide) h
  unfold Spelling.marked?
  split
  · rename_i c rest hdigits
    obtain ⟨hx, ho, hb⟩ := hmark c (hdigits ▸ List.mem_cons_of_mem _ List.mem_cons_self)
    split
    · contradiction
    · contradiction
    · contradiction
    · rfl
  · rfl

theorem foldl_inAscii {digits : List Char} (h : ∀ c ∈ digits, isDecimalDigit c = true) :
    (digits.map Spelling.inAscii).foldl (fun n c ↦ n * 10 + (Spelling.digitValue? c).getD 0) 0 =
      digitsValue digits := by
  have hsame := forall_inAscii (P := fun c ↦ Spelling.digitValue? c = digitValue? c) (by decide) h
  rw [← digitsValue_inAscii h]
  refine List.foldl_ext _ _ _ fun n c hc ↦ ?_
  rw [hsame c hc, Nat.mul_comm]

/-- A count is accepted by the conversion to an integer, up to the limit of digits. -/
theorem integer_of_spellsCount {negative : Bool} {digits front : List Char}
    (h : SpellsCount negative digits front) :
    Spelling.integer 10 (Spelling.characters (String.ofList front)) =
      if Json.integerDigitLimit < digits.length then .error .overlongInteger
      else .ok (signedValue negative (digitsValue digits)) := by
  cases h with | @mk sign _ hsign hdigits
  have hcompact := (isCompact_sign hsign).append (isCompact_digits hdigits.2)
  have hhead := @head_inAscii_ne _ [] hdigits
  rw [List.append_nil] at hhead
  have hbased : Spelling.basedDigits 10 (digits.map Spelling.inAscii) =
      (10, digits.map Spelling.inAscii) := by
    rw [Spelling.basedDigits, marked?_inAscii hdigits.2]
    rfl
  have hgroup := @groupedDigits_append (Spelling.isDigitOf 10) (by decide) _ []
    (mt List.map_eq_nil_iff.mp hdigits.1) (forall_inAscii (by decide) hdigits.2) (by simp)
  rw [List.append_nil] at hgroup
  have hbases : (!Spelling.bitBases.contains 10) = true := by decide
  rw [characters_of_isCompact hcompact, List.map_append, sign_inAscii hsign, Spelling.integer,
    decimalSign_append hsign hhead]
  dsimp only
  rw [hbased]
  dsimp only
  rw [hgroup]
  dsimp only
  rw [hbases, Bool.true_and, List.length_map, foldl_inAscii hdigits.2]
  simp only [decide_eq_true_eq]
  rfl

/-! ## Written integers -/

theorem exists_digitChar_of_isDigit {c : Char} (h : c.isDigit = true) :
    ∃ n < 10, c = Nat.digitChar n := by
  obtain ⟨hlower, hupper⟩ := Char.isDigit_iff_toNat.mp h
  have hzero : '0'.toNat = 0x30 := rfl
  have hnine : '9'.toNat = 0x39 := rfl
  have hall : ∀ k < 10, Char.ofNat (0x30 + k) = Nat.digitChar k := by decide
  refine ⟨c.toNat - 0x30, by omega, ?_⟩
  rw [← hall _ (by omega), Nat.add_sub_cancel' (by omega), Char.ofNat_toNat]

/-- What is computed of the ten digits holds of each digit in a decimal. -/
theorem forall_toDigits {P : Char → Prop} (hP : ∀ n < 10, P (Nat.digitChar n)) (n : Nat) :
    ∀ c ∈ Nat.toDigits 10 n, P c := by
  intro c hc
  obtain ⟨k, hk, rfl⟩ := exists_digitChar_of_isDigit ((isDigits_toDigits n).2 c hc)
  exact hP k hk

theorem isDigits_of_toDigits (n : Nat) : IsDigits (Nat.toDigits 10 n) :=
  ⟨Nat.toDigits_ne_nil, forall_toDigits (by decide) n⟩

theorem digitsValue_toDigits (n : Nat) : digitsValue (Nat.toDigits 10 n) = n := by
  calc
    digitsValue (Nat.toDigits 10 n) = natValue (Nat.toDigits 10 n) := by
      rw [natValue, Nat.ofDigitChars_eq_foldl]
      refine List.foldl_ext _ _ _ fun value c hc ↦ congrArg _ ?_
      exact forall_toDigits (P := fun c ↦ (digitValue? c).getD 0 = c.toNat - '0'.toNat)
        (by decide) n c hc
    _ = n := natValue_toDigits n

theorem signedValue_natAbs (n : Int) : signedValue (n < 0) n.natAbs = n := by
  by_cases hn : n < 0
  · rw [decide_eq_true hn, signedValue, if_pos rfl]
    omega
  · rw [decide_eq_false hn, signedValue, if_neg Bool.false_ne_true]
    omega

/-- An integer is written as a sign, if it is negative, and its digits. -/
theorem integerText_eq (n : Int) : ∃ sign, SpellsSign (n < 0) sign ∧
    Json.integerText n = sign ++ Nat.toDigits 10 n.natAbs := by
  unfold Json.integerText Double.Layout.signed
  by_cases hn : n < 0
  · rw [decide_eq_true hn]
    exact ⟨['-'], .minus, rfl⟩
  · rw [decide_eq_false hn]
    exact ⟨[], .none, rfl⟩

theorem trimLeft_integerText (n : Int) : trimLeft (Json.integerText n) = Json.integerText n := by
  have hblank := forall_toDigits (P := fun c ↦ isBlank c = false) (by decide) n.natAbs
  obtain ⟨sign, hsign, htext⟩ := integerText_eq n
  rw [htext]
  generalize decide (n < 0) = negative at hsign
  cases hsign with
  | minus => exact trimLeft_of_not_isBlank (by decide)
  | plus => exact trimLeft_of_not_isBlank (by decide)
  | none =>
    obtain ⟨first, others, hdigits⟩ := List.exists_cons_of_ne_nil (isDigits_of_toDigits n.natAbs).1
    rw [List.nil_append, hdigits]
    exact trimLeft_of_not_isBlank (hblank first (hdigits ▸ List.mem_cons_self))

/-- The text of an integer is its own longest part of a form that it has. -/
theorem isLongest_integerText {Form : List Char → Prop} {n : Int} (h : Form (Json.integerText n)) :
    IsLongest Form (trimLeft (String.ofList (Json.integerText n)).toList) (Json.integerText n) := by
  rw [String.toList_ofList, trimLeft_integerText]
  exact ⟨List.prefix_rfl, h, fun _ hother _ ↦ hother.length_le⟩

theorem spellsCount_integerText (n : Int) :
    SpellsCount (n < 0) (Nat.toDigits 10 n.natAbs) (Json.integerText n) := by
  obtain ⟨sign, hsign, htext⟩ := integerText_eq n
  rw [htext]
  exact .mk hsign (isDigits_of_toDigits _)

theorem spellsDecimal_integerText (n : Int) :
    SpellsDecimal (n < 0) n.natAbs 0 (Json.integerText n) := by
  obtain ⟨sign, hsign, htext⟩ := integerText_eq n
  have hspells := SpellsDecimal.mk hsign (.whole (isDigits_of_toDigits n.natAbs)) .none
  rw [List.append_nil, digitsValue_toDigits, List.length_nil, Nat.cast_zero, sub_zero] at hspells
  rw [htext]
  exact hspells

/-! ## The number of a tag -/

/-- The JSON number of a double: an integer where it is integral, none where it is infinite. -/
inductive IsNumberOf : Double → Option Json → Prop where
  | infinite {negative : Bool} : IsNumberOf (.infinite negative) none
  | integral {x : Double.Finite} {n : Int} (h : (n : ℚ) = x.number) :
      IsNumberOf (.finite x) (some (.int n))
  | fractional {x : Double.Finite} (h : ∀ n : Int, (n : ℚ) ≠ x.number) :
      IsNumberOf (.finite x) (some (.float (.finite x)))

theorem numberOfDouble?_of_number {x : Double.Finite} {n : Int} (h : (n : ℚ) = x.number) :
    numberOfDouble? (.finite x) = some (.int n) := by
  have hint : (Double.finite x).toInt? = some n := Double.Finite.toInt?_eq_some_iff.mpr h
  simp only [numberOfDouble?, hint]
  rfl

theorem isNumberOf_numberOfDouble? {x : Double} (hx : x ≠ .nan) :
    IsNumberOf x (numberOfDouble? x) := by
  cases x with
  | nan => exact absurd rfl hx
  | infinite negative => exact .infinite
  | finite x =>
    cases hint : x.toInt? with
    | some n =>
      have hnumber := Double.Finite.toInt?_eq_some_iff.mp hint
      rw [numberOfDouble?_of_number hnumber]
      exact .integral hnumber
    | none =>
      have hvalue : numberOfDouble? (.finite x) = some (.float (.finite x)) := by
        have hint : (Double.finite x).toInt? = none := hint
        simp only [numberOfDouble?, hint]
        rfl
      rw [hvalue]
      refine .fractional fun n hn ↦ ?_
      rw [Double.Finite.toInt?_eq_some_iff.mpr hn] at hint
      cases hint

/-- The longest count of a text is its count, unless it has too many digits for an integer. -/
theorem count?_of_isLongest {text : String} {front digits : List Char} {negative : Bool}
    (h : IsLongest IsCount (trimLeft text.toList) front)
    (hspells : SpellsCount negative digits front) :
    count? text = if Json.integerDigitLimit < digits.length then .error .overlongInteger
      else .ok (some (signedValue negative (digitsValue digits))) := by
  rw [count?, countDigits?_of_isLongest h hspells]

/-- The longest numeral of a text is its number, rounded to the nearest double. -/
theorem number?_of_isLongest {text : String} {front : List Char} {negative : Bool} {digits : Nat}
    {exponent : ℤ} (h : IsLongest IsDecimal (trimLeft text.toList) front)
    (hspells : SpellsDecimal negative digits exponent front) :
    number? text = numberOfDouble? (Double.ofDecimal negative digits exponent) := by
  obtain ⟨numeral, hread, hdouble⟩ := Option.map_eq_some_iff.mp (read?_of_isLongest h hspells)
  rw [number?, hread, Option.bind_some, hdouble]

theorem isNumberOf_number? {text : String} {front : List Char} {negative : Bool} {digits : Nat}
    {exponent : ℤ} (h : IsLongest IsDecimal (trimLeft text.toList) front)
    (hspells : SpellsDecimal negative digits exponent front) :
    IsNumberOf (Double.ofDecimal negative digits exponent) (number? text) := by
  have hnearest := Double.isNearest_ofDecimal negative digits exponent
  rw [number?_of_isLongest h hspells]
  refine isNumberOf_numberOfDouble? fun hnan ↦ ?_
  rw [hnan] at hnearest
  exact hnearest

/-- The longest count and the longest numeral of a text determine its count and its number: the
conversions accept them, and give the integer that is spelled and the nearest double. -/
structure ReadsLongest (text : String) : Prop where
  count : ∀ {front negative digits}, IsLongest IsCount (trimLeft text.toList) front →
    SpellsCount negative digits front → digits.length ≤ Json.integerDigitLimit →
      count? text = .ok (some (signedValue negative (digitsValue digits)))
  countConverted : ∀ {front}, IsLongest IsCount (trimLeft text.toList) front →
    count? text = (Spelling.integer 10 (Spelling.characters (String.ofList front))).map some
  noCount : count? text = .ok none ↔ ∀ front, front <+: trimLeft text.toList → ¬ IsCount front
  number : ∀ {front negative digits exponent}, IsLongest IsDecimal (trimLeft text.toList) front →
    SpellsDecimal negative digits exponent front →
      ∃ x : Double, Spelling.real? (Spelling.characters (String.ofList front)) = some x ∧
        x.IsNearest negative (digits * 10 ^ exponent) ∧ IsNumberOf x (number? text)
  noNumber : number? text = none ↔
    (∀ front, front <+: trimLeft text.toList → ¬ IsDecimal front) ∨
      ∃ front negative digits exponent sign, IsLongest IsDecimal (trimLeft text.toList) front ∧
        SpellsDecimal negative digits exponent front ∧
          (Double.infinite sign).IsNearest negative (digits * 10 ^ exponent)
  countElsewhere : ∀ {front text'}, IsLongest IsCount (trimLeft text.toList) front →
    IsLongest IsCount (trimLeft text'.toList) front → count? text' = count? text
  numberElsewhere : ∀ {front text'}, IsLongest IsDecimal (trimLeft text.toList) front →
    IsLongest IsDecimal (trimLeft text'.toList) front → number? text' = number? text

/-- Conversions and readers of constraints agree on the longest part. -/
theorem readsLongest (text : String) : ReadsLongest text where
  count h hspells hlength := by
    rw [count?_of_isLongest h hspells, if_neg (Nat.not_lt.mpr hlength)]
  countConverted h := by
    obtain ⟨negative, digits, hspells⟩ := h.form
    rw [count?_of_isLongest h hspells, integer_of_spellsCount hspells]
    split <;> rfl
  noCount := by
    rw [← countDigits?_eq_none_iff]
    unfold count?
    split
    · rename_i hnone
      exact iff_of_true rfl hnone
    · rename_i hsome
      refine iff_of_false (fun h ↦ ?_) fun hnone ↦ ?_
      · split at h <;> cases h
      · rw [hnone] at hsome
        cases hsome
  number h hspells :=
    ⟨_, real?_of_spellsDecimal hspells, Double.isNearest_ofDecimal _ _ _,
      isNumberOf_number? h hspells⟩
  noNumber := by
    constructor
    · intro hnone
      refine or_iff_not_imp_left.mpr fun hsome ↦ ?_
      push Not at hsome
      obtain ⟨front, hinitial, hform⟩ := hsome
      obtain ⟨longest, hlongest⟩ := exists_isLongest hinitial hform
      obtain ⟨negative, digits, exponent, hspells⟩ := hlongest.form
      have hnumber := isNumberOf_number? hlongest hspells
      have hnearest := Double.isNearest_ofDecimal negative digits exponent
      rw [hnone] at hnumber
      generalize Double.ofDecimal negative digits exponent = x at hnumber hnearest
      cases hnumber with
      | @infinite sign =>
        exact ⟨longest, negative, digits, exponent, sign, hlongest, hspells, hnearest⟩
    · rintro (hnone | ⟨front, negative, digits, exponent, sign, h, hspells, hnearest⟩)
      · rw [number?, read?_eq_none_iff.mpr hnone]
        rfl
      · rw [number?_of_isLongest h hspells, ← Double.isNearest_iff.mp hnearest]
        rfl
  countElsewhere h h' := by
    obtain ⟨negative, digits, hspells⟩ := h.form
    rw [count?_of_isLongest h hspells, count?_of_isLongest h' hspells]
  numberElsewhere h h' := by
    obtain ⟨negative, digits, exponent, hspells⟩ := h.form
    rw [number?_of_isLongest h hspells, number?_of_isLongest h' hspells]

/-- A written integer up to 2⁵³ is read back as a count. -/
theorem count?_integerText {n : Int} (h : n.natAbs ≤ 2 ^ 53) :
    count? (String.ofList (Json.integerText n)) = .ok (some n) := by
  have hlength : (Nat.toDigits 10 n.natAbs).length ≤ Json.integerDigitLimit := by
    have hshort : (Nat.toDigits 10 n.natAbs).length ≤ 16 :=
      (Nat.length_toDigits_le_iff (by decide) (by decide)).mpr (h.trans_lt (by decide))
    exact hshort.trans (by decide)
  have hspells := spellsCount_integerText n
  rw [count?_of_isLongest (isLongest_integerText ⟨_, _, hspells⟩) hspells,
    if_neg (Nat.not_lt.mpr hlength), digitsValue_toDigits, signedValue_natAbs]

theorem number?_integerText {n : Int} (h : n.natAbs ≤ 2 ^ 53) :
    number? (String.ofList (Json.integerText n)) = some (.int n) := by
  obtain ⟨x, hx, hnumber⟩ := Double.ofDecimal_of_le h (n < 0)
  have hspells := spellsDecimal_integerText n
  have hint : (n : ℚ) = x.number := by
    rw [hnumber, Double.signedNumber, Nat.cast_natAbs, Int.cast_abs]
    by_cases hn : n < 0
    · rw [decide_eq_true hn, if_pos rfl, abs_of_neg (by exact_mod_cast hn), neg_neg]
    · rw [decide_eq_false hn, if_neg Bool.false_ne_true,
        abs_of_nonneg (by exact_mod_cast not_lt.mp hn)]
  rw [number?_of_isLongest (isLongest_integerText ⟨_, _, _, hspells⟩) hspells, hx,
    numberOfDouble?_of_number hint]

/-- Counts and numbers are read from the longest prefix, and those of the decimal of an integer that
is a double are that integer. -/
theorem count?_number?_longest : (∀ text, ReadsLongest text) ∧ ∀ n : Int, n.natAbs ≤ 2 ^ 53 →
    count? (String.ofList (Json.integerText n)) = .ok (some n) ∧
      number? (String.ofList (Json.integerText n)) = some (.int n) :=
  ⟨readsLongest, fun _ h ↦ ⟨count?_integerText h, number?_integerText h⟩⟩

/-- A blank stands before the numeral, which has a point and an exponent and makes up the rest. -/
theorem count?_number?_longest_places :
    (∃ x : Double, Spelling.real? (Spelling.characters "1.5e2") = some x ∧
        x.IsNearest false (15 * 10 ^ (1 : ℤ)) ∧ IsNumberOf x (number? " 1.5e2")) ∧
      count? " +12" = .ok (some 12) ∧
      number? (String.ofList (Json.integerText (-7))) = some (.int (-7)) := by
  obtain ⟨hreads, hintegers⟩ := count?_number?_longest
  have hdecimal : SpellsDecimal false 15 1 "1.5e2".toList :=
    @SpellsDecimal.mk false [] ['1'] ['5'] "1.5".toList "e2".toList 2 .none
      (.pointed ⟨List.cons_ne_nil _ _, List.forall_mem_singleton.mpr rfl⟩
        (List.forall_mem_singleton.mpr rfl))
      (@SpellsPower.some 'e' false [] ['2'] List.mem_cons_self .none
        ⟨List.cons_ne_nil _ _, List.forall_mem_singleton.mpr rfl⟩)
  have hcount : SpellsCount false ['1', '2'] "+12".toList :=
    @SpellsCount.mk false ['+'] ['1', '2'] .plus
      ⟨List.cons_ne_nil _ _, List.forall_iff_forall_mem.mp (by decide)⟩
  have hlongest : IsLongest IsDecimal (trimLeft " 1.5e2".toList) "1.5e2".toList :=
    ⟨List.prefix_rfl, ⟨_, _, _, hdecimal⟩, fun _ hother _ ↦ hother.length_le⟩
  have hlongest' : IsLongest IsCount (trimLeft " +12".toList) "+12".toList :=
    ⟨List.prefix_rfl, ⟨_, _, hcount⟩, fun _ hother _ ↦ hother.length_le⟩
  refine ⟨?_, (hreads " +12").count hlongest' hcount (by decide), (hintegers (-7) (by decide)).2⟩
  have hnumber := (hreads " 1.5e2").number hlongest hdecimal
  rw [String.ofList_toList] at hnumber
  exact_mod_cast hnumber

end Tag

end Schematic
