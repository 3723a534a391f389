import Schematic.Proofs.Finiteness
import Schematic.Proofs.Rounding
import Schematic.Tag.Number

/-!
# Numbers of tags

The number of a tag is the double nearest to the number at the front of its text. So it is
positive exactly where the number written is not rounded to zero and has no minus sign, and
it is finite in any case. A count is negative only where the text has a minus sign.
-/

namespace Schematic

namespace Json

def IsPositive : Json → Prop
  | int n => 0 < n
  | float (.finite x) => x.negative = false ∧ 0 < x.mantissa
  | _ => False

def IsNumber : Json → Prop
  | int _ => True
  | float x => x.isFinite = true
  | _ => False

end Json

namespace Double.Finite

/-- An integral double has the sign of its integer. -/
theorem pos_of_toInt? {x : Finite} {n : Int} (h : x.toInt? = some n) :
    0 < n ↔ x.negative = false ∧ 0 < x.mantissa := by
  unfold toInt? at h
  dsimp only at h
  split at h
  · rename_i hdivides
    have hden : 0 < x.quotient.2 := Nat.pow_pos Nat.two_pos
    have hmagnitude : 0 < x.quotient.1 / x.quotient.2 ↔ 0 < x.mantissa := by
      rw [Nat.div_pos_iff, and_iff_right hden]
      constructor
      · intro hle
        exact Nat.pos_of_mul_pos_right (hden.trans_le hle)
      · intro hmantissa
        refine Nat.le_of_dvd (Nat.mul_pos hmantissa (Nat.pow_pos Nat.two_pos)) ?_
        exact Nat.dvd_of_mod_eq_zero hdivides
    obtain rfl := Option.some.inj h
    rw [← hmagnitude]
    generalize x.quotient.1 / x.quotient.2 = magnitude
    cases x.negative with
    | true =>
      simp only [if_true, reduceCtorEq, false_and, iff_false]
      omega
    | false =>
      simp only [Bool.false_eq_true, if_false, true_and]
      omega
  · cases h

end Double.Finite

namespace Tag

/-- A text that begins, after blanks, with a minus sign. -/
def HasMinus (text : String) : Prop :=
  (Text.trimLeft text.toList).head? = some '-'

namespace Numeral

def magnitude (numeral : Numeral) : ℚ :=
  Text.digitsValue (numeral.whole ++ numeral.fraction) *
    10 ^ (Json.Reader.signedValue numeral.exponentNegative (Text.digitsValue numeral.exponent) -
      numeral.fraction.length)

def number (numeral : Numeral) : ℚ :=
  if numeral.negative then -numeral.magnitude else numeral.magnitude

theorem magnitude_nonneg (numeral : Numeral) : 0 ≤ numeral.magnitude :=
  mul_nonneg (Nat.cast_nonneg _) (zpow_pos (by norm_num) _).le

theorem halfLeast_lt_number_iff (numeral : Numeral) : Double.halfLeast < numeral.number ↔
    numeral.negative = false ∧ ¬ numeral.magnitude ≤ Double.halfLeast := by
  unfold number
  cases numeral.negative with
  | true =>
    have hmagnitude := numeral.magnitude_nonneg
    have hhalf := Double.halfLeast_pos
    simp only [if_true, reduceCtorEq, false_and, iff_false, not_lt]
    linarith
  | false => simp

end Numeral

/-- The number of a double is no infinity, and it has the sign of the double. -/
theorem finite_of_numberOfDouble? {x : Double} {value : Json} (h : numberOfDouble? x = some value) :
    ∃ y, x = .finite y ∧ value.IsNumber ∧
      (value.IsPositive ↔ y.negative = false ∧ 0 < y.mantissa) := by
  unfold numberOfDouble? at h
  split at h
  · rename_i hfinite
    cases x with
    | nan => cases hfinite
    | infinite negative => cases hfinite
    | finite y =>
      obtain rfl := Option.some.inj h
      refine ⟨y, rfl, ?_⟩
      split
      · rename_i n hn
        exact ⟨trivial, Double.Finite.pos_of_toInt? hn⟩
      · exact ⟨rfl, Iff.rfl⟩
  · cases h

/-- The number of a tag is positive exactly where the number written is greater than half of the
least positive double. -/
theorem number_of_number? {text : String} {value : Json} (h : number? text = some value) :
    value.IsNumber ∧ ∃ numeral, Numeral.read? text.toList = some numeral ∧
      (value.IsPositive ↔ Double.halfLeast < numeral.number) := by
  obtain ⟨numeral, hnumeral, hvalue⟩ := Option.bind_eq_some_iff.mp h
  obtain ⟨x, hdouble, hnumber, hpositive⟩ := finite_of_numberOfDouble? hvalue
  have hrounds := Double.rounds_ofDecimal hdouble
  refine ⟨hnumber, numeral, hnumeral, ?_⟩
  rw [hpositive, numeral.halfLeast_lt_number_iff, hrounds.sign, Nat.pos_iff_ne_zero, Ne,
    hrounds.zero]
  rfl

theorem head?_of_takeSign {cs : List Char} (h : (Numeral.takeSign cs).1 = true) :
    cs.head? = some '-' := by
  unfold Numeral.takeSign at h
  split at h
  · rfl
  · cases h
  · cases h

/-- A count is negative only where the text has a minus sign. -/
theorem hasMinus_of_count? {text : String} {n : Int} (h : count? text = .ok (some n))
    (hn : n < 0) : HasMinus text := by
  unfold count? at h
  split at h
  · cases h
  · rename_i negative digits hdigits
    split at h
    · cases h
    · have hsigned : Json.Reader.signedValue negative (Text.digitsValue digits) = n :=
        Option.some.inj (Except.ok.inj h)
      have hnegative : negative = true := by
        by_contra hplain
        rw [Json.Reader.signedValue, if_neg hplain] at hsigned
        omega
      unfold countDigits? at hdigits
      dsimp only at hdigits
      split at hdigits
      · cases hdigits
      · obtain ⟨hsign, -⟩ := Prod.mk.inj (Option.some.inj hdigits)
        exact head?_of_takeSign (hsign.trans hnegative)

end Tag

end Schematic
