import Schematic.Proofs.Grammar
import Schematic.Proofs.Rounding

/-!
# The range of numerals

A numeral that is not whole stands for a double, which is finite where the number written is
less than the middle between the greatest double and the next power of two. To write a
number beyond that takes an exponent or some hundred digits.
-/

namespace Schematic.Json

open Grammar

namespace Grammar.Numeral

def magnitude (numeral : Numeral) : ℚ :=
  Reader.natValue (numeral.whole ++ numeral.fraction.getD []) *
    10 ^ ((numeral.exponent.map fun (negative, digits) ↦
      Reader.signedValue negative (Reader.natValue digits)).getD 0 -
        ((numeral.fraction.getD []).length : ℤ))

/-- A numeral that is read as a finite number: a whole one, or one that is not rounded to
infinity. -/
def InRange (numeral : Numeral) : Prop :=
  (numeral.fraction = none ∧ numeral.exponent = none) ∨ numeral.magnitude < Double.overflow

end Grammar.Numeral

/-! ## Short numerals -/

theorem ofDigitChars_lt {digits : List Char} (h : ∀ c ∈ digits, c.isDigit = true) (start : Nat) :
    Nat.ofDigitChars 10 digits start < (start + 1) * 10 ^ digits.length := by
  induction digits generalizing start with
  | nil => simp [Nat.ofDigitChars_eq_foldl]
  | cons c digits ih =>
    obtain ⟨hc, hdigits⟩ := List.forall_mem_cons.mp h
    have hdigit : c.toNat - '0'.toNat ≤ 9 := by
      have hnine : c.toNat ≤ '9'.toNat := (Char.isDigit_iff_toNat.mp hc).2
      have hzero : '9'.toNat = '0'.toNat + 9 := rfl
      omega
    calc
      Nat.ofDigitChars 10 (c :: digits) start
          = Nat.ofDigitChars 10 digits (10 * start + (c.toNat - '0'.toNat)) := Nat.ofDigitChars_cons
      _ < (10 * start + (c.toNat - '0'.toNat) + 1) * 10 ^ digits.length := ih hdigits _
      _ ≤ ((start + 1) * 10) * 10 ^ digits.length := Nat.mul_le_mul_right _ (by omega)
      _ = (start + 1) * 10 ^ (c :: digits).length := by
        rw [List.length_cons, Nat.pow_succ', Nat.mul_assoc]

/-- A count of digits that are too few, without an exponent, for a number beyond the doubles. -/
def safeLength : Nat := 300

theorem ten_pow_lt_overflow : (10 : ℚ) ^ safeLength < Double.overflow := by
  calc
    (10 : ℚ) ^ safeLength = (10 ^ 3) ^ 100 := pow_mul 10 3 100
    _ ≤ (2 ^ 10) ^ 100 := pow_le_pow_left₀ (by norm_num) (by norm_num) _
    _ = 1 * 2 ^ 1000 := by rw [← pow_mul, one_mul]
    _ = 2 ^ 30 * 2 ^ (970 : ℤ) := by
      rw [one_mul, Double.two_pow_mul_two_zpow, ← zpow_natCast]
      rfl
    _ < Double.overflow := by
      refine mul_lt_mul_of_pos_right ?_ Double.two_zpow_970_pos
      norm_num

/-- A numeral with few digits and no exponent is in range. -/
theorem magnitude_lt {numeral : Numeral} (hexponent : numeral.exponent = none)
    (hdigits : ∀ c ∈ numeral.whole ++ numeral.fraction.getD [], c.isDigit = true)
    (hlength : (numeral.whole ++ numeral.fraction.getD []).length ≤ safeLength) :
    numeral.magnitude < Double.overflow := by
  have hvalue : Reader.natValue (numeral.whole ++ numeral.fraction.getD []) < 10 ^ safeLength := by
    refine (ofDigitChars_lt hdigits 0).trans_le ?_
    rw [Nat.zero_add, Nat.one_mul]
    exact Nat.pow_le_pow_right (by decide) hlength
  have hpower : (10 : ℚ) ^ (0 - ((numeral.fraction.getD []).length : ℤ)) ≤ 1 :=
    zpow_le_one_of_nonpos₀ (by norm_num) (by omega)
  unfold Numeral.magnitude
  rw [hexponent]
  calc
    (Reader.natValue (numeral.whole ++ numeral.fraction.getD []) : ℚ) * 10 ^ (0 - _)
        ≤ Reader.natValue (numeral.whole ++ numeral.fraction.getD []) * 1 :=
      mul_le_mul_of_nonneg_left hpower (Nat.cast_nonneg _)
    _ < 10 ^ safeLength := by
      rw [mul_one]
      exact_mod_cast hvalue
    _ < Double.overflow := ten_pow_lt_overflow

/-- A text with no letter of an exponent and too few characters for a number out of range. -/
structure Short (text : List Char) : Prop where
  letters : ∀ letter ∈ ['e', 'E'], letter ∉ text
  length : text.length ≤ safeLength

theorem Short.part {text part : List Char} (h : Short text) (hpart : part <:+: text) :
    Short part where
  letters := fun letter hletter hmem ↦ h.letters letter hletter (hpart.subset hmem)
  length := hpart.length_le.trans h.length

theorem exponent_eq_none {exponent : Option (Bool × List Char)} {text : List Char}
    (h : SpellsExponent exponent text) (hshort : Short text) : exponent = none := by
  cases h with
  | none => rfl
  | some hletter => exact absurd List.mem_cons_self (hshort.letters _ hletter)

theorem digits_fraction {fraction : Option (List Char)} {text : List Char}
    (h : SpellsFraction fraction text) :
    (∀ c ∈ fraction.getD [], c.isDigit = true) ∧ (fraction.getD []).length ≤ text.length := by
  cases h with
  | none => exact ⟨fun _ hc ↦ absurd hc List.not_mem_nil, le_rfl⟩
  | some hdigits => exact ⟨hdigits.2, Nat.le_succ _⟩

/-- A numeral in a short text is in range. -/
theorem inRange_of_spellsNumeral {numeral : Numeral} {text : List Char}
    (h : SpellsNumeral numeral text) (hshort : Short text) : numeral.InRange := by
  obtain @⟨fraction, exponent, hwhole, hfraction, hexponent⟩ := h
  have hnone : numeral.exponent = none := by
    refine exponent_eq_none hexponent (hshort.part (List.IsSuffix.isInfix ?_))
    exact (List.suffix_append _ _).trans ((List.suffix_append _ _).trans (List.suffix_append _ _))
  obtain ⟨hdigits, hfew⟩ := digits_fraction hfraction
  refine .inr (magnitude_lt hnone (List.forall_mem_append.mpr ⟨hwhole.1.2, hdigits⟩) ?_)
  have hlength := hshort.length
  simp only [List.length_append] at hlength ⊢
  omega

/-- It takes an exponent or more than three hundred characters to write a number that is out of
range. -/
theorem inRange_of_short {part : Part} {text : List Char} {numerals : List Numeral}
    (h : Spells part text numerals) (hshort : Short text) :
    ∀ numeral ∈ numerals, numeral.InRange := by
  induction h with
  | word | string | empty => exact fun _ hnumeral ↦ absurd hnumeral List.not_mem_nil
  | numeral h => exact List.forall_mem_singleton.mpr (inRange_of_spellsNumeral h hshort)
  | @full container space text _ _ _ ih =>
    exact ih (hshort.part ⟨container.opening :: space, [container.closing], by simp⟩)
  | @item text space _ _ _ ih => exact ih (hshort.part ⟨[], space, rfl⟩)
  | @field key space space' text space'' _ _ _ _ _ _ ih =>
    exact ih (hshort.part ⟨'\x22' :: (key ++ '\x22' :: (space ++ ':' :: space')), space'', by simp⟩)
  | last _ ih => exact ih hshort
  | @next _ text space rest _ _ _ _ _ ih ihrest =>
    refine List.forall_mem_append.mpr ⟨ih (hshort.part ⟨[], ',' :: (space ++ rest), rfl⟩), ?_⟩
    exact ihrest (hshort.part ⟨text ++ ',' :: space, [], by simp⟩)

theorem inRange_of_isText {text : List Char} {numerals : List Numeral} (h : IsText text numerals)
    (hshort : Short text) : ∀ numeral ∈ numerals, numeral.InRange := by
  obtain @⟨space, text, space', numerals, -, hvalue, -⟩ := h
  exact inRange_of_short hvalue (hshort.part ⟨space, space', List.append_assoc _ _ _⟩)

end Schematic.Json
