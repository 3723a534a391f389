import Mathlib.Data.List.TakeWhile
import Schematic.Json.Writer
import Schematic.Proofs.NearestDouble
import Schematic.Proofs.NumeralRange

/-!
# Numbers that are written

An integer is written as a whole numeral, a finite double as a numeral with a fraction or an
exponent, and the number spelled is the one that was written: no layout changes the number of
a decimal. A positional number is written with its leading digit in front, so it matters that
the shortest decimal of a double other than zero is not zero.
-/

namespace Schematic

open Json.Grammar
open Json.Reader (natValue signedValue)

/-! ## Digits -/

theorem isDigits_toDigits (n : Nat) : IsDigits (Nat.toDigits 10 n) :=
  ⟨Nat.toDigits_ne_nil, fun _ hc ↦ Nat.isDigit_of_mem_toDigits (by decide) le_rfl hc⟩

theorem isDigits_append {digits digits' : List Char} (h : ∀ c ∈ digits, c.isDigit = true)
    (h' : IsDigits digits') : IsDigits (digits ++ digits') := by
  refine ⟨List.append_ne_nil_of_right_ne_nil _ h'.1, fun c hc ↦ ?_⟩
  exact (List.mem_append.mp hc).elim (h c) (h'.2 c)

theorem isDigit_of_mem_zeros {count : Nat} {c : Char} (h : c ∈ List.replicate count '0') :
    c.isDigit = true := by
  rw [List.eq_of_mem_replicate h]
  rfl

/-- Only zero is written with a zero in front. -/
theorem head?_toDigits_ne {n : Nat} (hn : n ≠ 0) : (Nat.toDigits 10 n).head? ≠ some '0' := by
  induction n using Nat.strongRecOn with
  | ind n ih =>
    rcases Nat.lt_or_ge n 10 with hless | hge
    · rw [Nat.toDigits_of_lt_base hless, List.head?_cons, Ne, Option.some.injEq,
        Nat.digitChar_eq_zero]
      exact hn
    · rw [Nat.toDigits_of_base_le (by decide) hge, List.head?_append_of_ne_nil _ Nat.toDigits_ne_nil]
      exact ih (n / 10) (by omega) (by omega)

theorem isWhole_toDigits (n : Nat) : IsWhole (Nat.toDigits 10 n) := by
  refine ⟨isDigits_toDigits n, fun hhead ↦ ?_⟩
  obtain rfl : n = 0 := not_not.mp fun hn ↦ head?_toDigits_ne hn hhead
  rfl

theorem natValue_toDigits (n : Nat) : natValue (Nat.toDigits 10 n) = n :=
  Nat.ofDigitChars_ten_toDigits

theorem natValue_append (digits digits' : List Char) :
    natValue (digits ++ digits') = natValue digits * 10 ^ digits'.length + natValue digits' := by
  unfold natValue
  rw [Nat.ofDigitChars_append, Nat.ofDigitChars_eq_ofDigitChars_zero, Nat.mul_comm]

theorem natValue_zeros (count : Nat) : natValue (List.replicate count '0') = 0 := by
  unfold natValue
  rw [Nat.ofDigitChars_replicate_zero, Nat.mul_zero]

theorem natValue_zeros_append (count : Nat) (digits : List Char) :
    natValue (List.replicate count '0' ++ digits) = natValue digits := by
  rw [natValue_append, natValue_zeros, Nat.zero_mul, Nat.zero_add]

theorem natValue_append_zeros (digits : List Char) (count : Nat) :
    natValue (digits ++ List.replicate count '0') = natValue digits * 10 ^ count := by
  rw [natValue_append, natValue_zeros, List.length_replicate, Nat.add_zero]

/-! ## Values of numerals -/

namespace Json.Grammar.Numeral

def value? (numeral : Numeral) : Option Json :=
  Reader.numeral numeral.negative numeral.whole numeral.fraction numeral.exponent

def IsFractional (numeral : Numeral) : Prop :=
  ¬ (numeral.fraction = none ∧ numeral.exponent = none)

/-- A numeral with a fraction or an exponent is read as the double nearest to its number. -/
theorem value?_of_isFractional {numeral : Numeral} (h : numeral.IsFractional) {digits : Nat}
    {exponent : Int} (hnumber : numeral.magnitude = digits * 10 ^ exponent) :
    numeral.value? = some (.float (Double.ofDecimal numeral.negative digits exponent)) := by
  unfold value? Reader.numeral
  split
  · exact absurd ⟨‹_›, ‹_›⟩ h
  · rw [← Double.ofDecimal_congr numeral.negative hnumber]

end Json.Grammar.Numeral

namespace Double

/-- Zero is zero at every power of ten. -/
theorem ofDecimal_zero (negative : Bool) (exponent : Int) :
    ofDecimal negative 0 exponent = zero negative :=
  if_pos rfl

/-- The shortest decimal of a number other than zero has digits. -/
theorem digits_shortest_ne_zero {x : Finite} (hx : x.mantissa ≠ 0) : (shortest x).digits ≠ 0 := by
  intro hzero
  have hread := ofDecimal_shortest x
  rw [hzero, ofDecimal_zero] at hread
  exact hx (congrArg Finite.mantissa (Double.finite.inj hread)).symm

/-! ## Layouts -/

namespace Layout

/-- A text spells a number by a numeral with a fraction or an exponent, without its sign. -/
inductive SpellsMagnitude (number : ℚ) : List Char → Prop where
  | mk {numeral : Numeral} {fraction exponent : List Char} (hwhole : IsWhole numeral.whole)
      (hfraction : SpellsFraction numeral.fraction fraction)
      (hexponent : SpellsExponent numeral.exponent exponent) (hfractional : numeral.IsFractional)
      (hnumber : numeral.magnitude = number) :
      SpellsMagnitude number (numeral.whole ++ (fraction ++ exponent))

theorem spells_signed {number : ℚ} {text : List Char} (h : SpellsMagnitude number text)
    (negative : Bool) : ∃ numeral, SpellsNumeral numeral (signed negative text) ∧
      numeral.negative = negative ∧ numeral.IsFractional ∧ numeral.magnitude = number := by
  obtain @⟨numeral, fraction, exponent, hwhole, hfraction, hexponent, hfractional, hnumber⟩ := h
  have hspelled : SpellsNumeral { numeral with negative := negative } _ :=
    .mk hwhole hfraction hexponent
  refine ⟨{ numeral with negative := negative }, ?_, rfl, hfractional, hnumber⟩
  cases negative <;> exact hspelled

/-- A text with a point spells the number of all its digits, moved by those of the fraction. -/
theorem spells_pointed {whole fraction : List Char} (hwhole : IsWhole whole)
    (hfraction : ∀ c ∈ fraction, c.isDigit = true) :
    SpellsMagnitude (natValue (whole ++ fraction) * 10 ^ (-(fraction.length : ℤ)))
      (pointed whole fraction) := by
  let shown := if fraction.isEmpty then ['0'] else fraction
  have hdigits : IsDigits shown := by
    simp only [shown]
    split
    · exact isWhole_zero.1
    · rename_i hnonempty
      exact ⟨fun hnil ↦ hnonempty (List.isEmpty_iff.mpr hnil), hfraction⟩
  have hnumber : (natValue (whole ++ shown) : ℚ) * 10 ^ (0 - (shown.length : ℤ)) =
      natValue (whole ++ fraction) * 10 ^ (-(fraction.length : ℤ)) := by
    simp only [shown]
    split
    · rename_i hempty
      have hzero : natValue (whole ++ ['0']) = natValue whole * 10 := natValue_append_zeros whole 1
      rw [List.isEmpty_iff.mp hempty, List.append_nil, hzero]
      push_cast
      norm_num [mul_assoc]
    · rw [zero_sub]
  let numeral : Numeral := ⟨false, whole, some shown, none⟩
  have hfractional : numeral.IsFractional := fun h ↦ Option.some_ne_none _ h.1
  have hspelled : SpellsMagnitude _ (numeral.whole ++ ('.' :: shown ++ [])) :=
    .mk hwhole (.some hdigits) .none hfractional hnumber
  rwa [List.append_nil] at hspelled

/-- Below one, zeros stand between the point and the digits. -/
theorem spells_belowOne {digits : List Char} (hdigits : IsDigits digits) {leading : Int}
    (hleading : leading < 0) :
    SpellsMagnitude (natValue digits * 10 ^ (leading - digits.length + 1))
      (pointed ['0'] (List.replicate (-leading - 1).toNat '0' ++ digits)) := by
  have hfraction : ∀ c ∈ List.replicate (-leading - 1).toNat '0' ++ digits, c.isDigit = true := by
    intro c hc
    exact (List.mem_append.mp hc).elim isDigit_of_mem_zeros (hdigits.2 c)
  have hvalue : natValue (['0'] ++ (List.replicate (-leading - 1).toNat '0' ++ digits)) =
      natValue digits := by
    rw [← List.append_assoc]
    exact natValue_zeros_append ((-leading - 1).toNat + 1) digits
  have hspelled := spells_pointed isWhole_zero hfraction
  rw [hvalue] at hspelled
  convert hspelled using 3
  rw [List.length_append, List.length_replicate]
  omega

theorem isWhole_take {digits : List Char} (hdigits : IsDigits digits)
    (hhead : digits.head? ≠ some '0') (places count : Nat) :
    IsWhole (digits.take (places + 1) ++ List.replicate count '0') := by
  obtain ⟨first, rest, rfl⟩ := List.exists_cons_of_ne_nil hdigits.1
  refine ⟨⟨by simp, fun c hc ↦ ?_⟩, fun hzero ↦ absurd hzero hhead⟩
  exact (List.mem_append.mp hc).elim (fun hc ↦ hdigits.2 c (List.mem_of_mem_take hc))
    isDigit_of_mem_zeros

/-- From one upwards, the point stands between two of the digits, or behind zeros that fill the places
up to it. -/
theorem spells_fromOne {digits : List Char} (hdigits : IsDigits digits)
    (hhead : digits.head? ≠ some '0') (places : Nat) :
    SpellsMagnitude (natValue digits * 10 ^ ((places : ℤ) - digits.length + 1))
      (pointed (digits.take (places + 1) ++ List.replicate (places + 1 - digits.length) '0')
        (digits.drop (places + 1))) := by
  have hfraction : ∀ c ∈ digits.drop (places + 1), c.isDigit = true :=
    fun c hc ↦ hdigits.2 c (List.mem_of_mem_drop hc)
  have hspelled := spells_pointed
    (isWhole_take hdigits hhead places (places + 1 - digits.length)) hfraction
  rcases Nat.lt_or_ge (places + 1) digits.length with hless | hge
  · rw [Nat.sub_eq_zero_of_le hless.le, List.replicate_zero, List.append_nil] at hspelled ⊢
    rw [List.take_append_drop, List.length_drop] at hspelled
    have hexponent : (places : ℤ) - digits.length + 1 =
        -((digits.length - (places + 1) : Nat) : ℤ) := by omega
    rwa [hexponent]
  · have hpower : (10 : ℚ) ^ ((places : ℤ) - digits.length + 1) =
        (10 ^ (places + 1 - digits.length) : ℕ) := by
      have hexponent : (places : ℤ) - digits.length + 1 = (places + 1 - digits.length : ℕ) := by
        omega
      rw [hexponent, zpow_natCast]
      norm_cast
    rw [List.drop_eq_nil_of_le hge, List.append_nil, List.take_of_length_le hge,
      natValue_append_zeros] at hspelled
    rw [List.drop_eq_nil_of_le hge, List.take_of_length_le hge, hpower]
    convert hspelled using 1
    push_cast
    simp

theorem spells_positional {digits : List Char} (hdigits : IsDigits digits)
    (hhead : digits.head? ≠ some '0') (leading : Int) :
    SpellsMagnitude (natValue digits * 10 ^ (leading - digits.length + 1))
      (positional digits leading) := by
  unfold positional
  split
  · rename_i hsmall
    exact spells_belowOne hdigits hsmall
  · rename_i hlarge
    have hplaces : ((leading.toNat : Nat) : ℤ) = leading := by omega
    have hspelled := spells_fromOne hdigits hhead leading.toNat
    rwa [hplaces] at hspelled

theorem spells_exponentText (layout : Layout) (exponent : Int) :
    ∃ negative digits, signedValue negative (natValue digits) = exponent ∧
      SpellsExponent (some (negative, digits)) ('e' :: layout.exponentText exponent) := by
  have hdigits : IsDigits (List.replicate
      (layout.exponentDigits - (Nat.toDigits 10 exponent.natAbs).length) '0' ++
        Nat.toDigits 10 exponent.natAbs) :=
    isDigits_append (fun _ ↦ isDigit_of_mem_zeros) (isDigits_toDigits _)
  have hvalue := natValue_zeros_append
    (layout.exponentDigits - (Nat.toDigits 10 exponent.natAbs).length)
    (Nat.toDigits 10 exponent.natAbs)
  rw [natValue_toDigits] at hvalue
  unfold exponentText
  split
  · have hsign : (true, ['-']) ∈ exponentSigns := .tail _ (.tail _ (.head _))
    have hexponent : signedValue true exponent.natAbs = exponent := by
      rw [signedValue, if_pos rfl]
      omega
    exact ⟨true, _, (congrArg _ hvalue).trans hexponent, .some (.head _) hsign hdigits⟩
  · have hsign : (false, ['+']) ∈ exponentSigns := .tail _ (.head _)
    have hexponent : signedValue false exponent.natAbs = exponent := by
      rw [signedValue, if_neg Bool.false_ne_true]
      omega
    exact ⟨false, _, (congrArg _ hvalue).trans hexponent, .some (.head _) hsign hdigits⟩

theorem spells_scientific (layout : Layout) {digits : List Char} (hdigits : IsDigits digits)
    (leading : Int) : SpellsMagnitude (natValue digits * 10 ^ (leading - digits.length + 1))
      (layout.scientific digits leading) := by
  obtain ⟨first, rest, rfl⟩ := List.exists_cons_of_ne_nil hdigits.1
  obtain ⟨hfirst, hrest⟩ := List.forall_mem_cons.mp hdigits.2
  have hwhole : IsWhole [first] := by
    refine ⟨⟨List.cons_ne_nil _ _, List.forall_mem_singleton.mpr hfirst⟩, fun hzero ↦ ?_⟩
    rw [Option.some.inj hzero]
  obtain ⟨negative, power, hpower, hexponent⟩ := layout.spells_exponentText leading
  let fraction := if rest.isEmpty then none else some rest
  have hfraction : SpellsFraction fraction (if (first :: rest).length ≤ 1 then []
      else '.' :: (first :: rest).drop 1) := by
    cases rest with
    | nil => exact .none
    | cons second others => exact .some ⟨List.cons_ne_nil _ _, hrest⟩
  have hplaces : fraction.getD [] = rest := by
    cases rest <;> rfl
  let numeral : Numeral := ⟨false, [first], fraction, some (negative, power)⟩
  have hfractional : numeral.IsFractional := fun h ↦ Option.some_ne_none _ h.2
  have hnumber : numeral.magnitude =
      natValue (first :: rest) * 10 ^ (leading - (first :: rest).length + 1) := by
    unfold Numeral.magnitude
    dsimp only [numeral, Option.map_some, Option.getD_some]
    rw [hplaces, hpower, List.singleton_append, List.length_cons]
    congr 2
    push_cast
    omega
  exact .mk hwhole hfraction hexponent hfractional hnumber

theorem spells_decimalText (layout : Layout) {decimal : Decimal} (h : decimal.digits ≠ 0) :
    SpellsMagnitude decimal.number (layout.decimalText decimal) := by
  have hdigits := isDigits_toDigits decimal.digits
  have hexponent (count : ℤ) : decimal.exponent + count - 1 - count + 1 = decimal.exponent := by
    omega
  unfold decimalText Decimal.number
  dsimp only
  split
  · have hspelled := spells_positional hdigits (head?_toDigits_ne h)
      (decimal.exponent + (Nat.toDigits 10 decimal.digits).length - 1)
    rwa [natValue_toDigits, hexponent] at hspelled
  · have hspelled := layout.spells_scientific hdigits
      (decimal.exponent + (Nat.toDigits 10 decimal.digits).length - 1)
    rwa [natValue_toDigits, hexponent] at hspelled

/-- A finite double is written as a numeral that is read as that double. -/
theorem spells_text (layout : Layout) (x : Finite) : ∃ numeral,
    SpellsNumeral numeral (layout.text (.finite x)) ∧
      numeral.value? = some (.float (.finite x)) := by
  unfold text
  dsimp only
  split
  · rename_i hzero
    have hspelled := spells_pointed isWhole_zero fun _ hc ↦ absurd hc List.not_mem_nil
    obtain ⟨numeral, hspells, hnegative, hfractional, hnumber⟩ := spells_signed hspelled x.negative
    refine ⟨numeral, hspells, ?_⟩
    have hmagnitude : numeral.magnitude = (0 : Nat) * 10 ^ (0 : ℤ) := by
      have hdigits : natValue (['0'] ++ []) = 0 := natValue_zeros 1
      rw [hnumber, hdigits, Nat.cast_zero, zero_mul, zero_mul]
    rw [Numeral.value?_of_isFractional hfractional hmagnitude, ofDecimal_zero, hnegative,
      zero_eq_finite hzero]
  · rename_i hx
    have hspelled := layout.spells_decimalText (digits_shortest_ne_zero hx)
    obtain ⟨numeral, hspells, hnegative, hfractional, hnumber⟩ := spells_signed hspelled x.negative
    refine ⟨numeral, hspells, ?_⟩
    rw [Numeral.value?_of_isFractional hfractional hnumber, hnegative, ofDecimal_shortest]

end Layout

end Double

/-! ## Integers -/

/-- An integer is read back, unless it is too long. -/
theorem Json.spells_integerText (n : Int) : ∃ numeral, SpellsNumeral numeral (integerText n) ∧
    ((Nat.toDigits 10 n.natAbs).length ≤ integerDigitLimit → numeral.value? = some (.int n)) := by
  let numeral : Numeral := ⟨decide (n < 0), Nat.toDigits 10 n.natAbs, none, none⟩
  have hspelled : SpellsNumeral numeral _ := .mk (isWhole_toDigits n.natAbs) .none .none
  refine ⟨numeral, ?_, fun hshort ↦ ?_⟩
  · rw [List.append_nil, List.append_nil] at hspelled
    unfold integerText Double.Layout.signed
    by_cases hn : n < 0
    · simpa [numeral, hn] using hspelled
    · simpa [numeral, hn] using hspelled
  · have hvalue : signedValue (n < 0) (natValue (Nat.toDigits 10 n.natAbs)) = n := by
      rw [natValue_toDigits, signedValue]
      split
      · rename_i hn
        have hnegative := of_decide_eq_true hn
        omega
      · rename_i hn
        have hpositive := of_decide_eq_false (Bool.not_eq_true _ ▸ hn)
        omega
    unfold Numeral.value? Reader.numeral
    dsimp only [numeral]
    rw [if_neg (Nat.not_lt.mpr hshort), hvalue]

end Schematic
