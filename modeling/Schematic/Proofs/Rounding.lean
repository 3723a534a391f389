import Mathlib.Algebra.Order.Field.Rat
import Mathlib.Algebra.Order.Field.Power
import Mathlib.Tactic.FieldSimp
import Mathlib.Tactic.NormNum
import Mathlib.Tactic.Linarith
import Schematic.Number.Double

/-!
# Rounding to doubles

Rounding keeps the sign of a number. It gives zero exactly where the number is not greater
than half of the least positive double, the tie going to the even mantissa zero, and it gives
a finite double below the middle between the greatest one and the next power of two.
-/

namespace Schematic.Double

def halfLeast : ℚ := 2 ^ (-1075 : ℤ)

/-- The middle between the greatest double and the next power of two. -/
def overflow : ℚ := (2 ^ 54 - 1) * 2 ^ (970 : ℤ)

/-! ## The nearest natural number -/

/-- A quotient is rounded to zero up to one half. -/
theorem roundHalfEven_eq_zero_iff {num den : Nat} (hden : 0 < den) :
    roundHalfEven num den = 0 ↔ 2 * num ≤ den := by
  have hdivision : den * (num / den) + num % den = num := Nat.div_add_mod num den
  have hrest : num % den < den := Nat.mod_lt num hden
  unfold roundHalfEven
  dsimp only
  rcases Nat.eq_zero_or_pos (num / den) with hzero | hpos
  · rw [hzero, Nat.mul_zero] at hdivision
    rw [hzero]
    split
    · omega
    · split <;> omega
  · have hle : den ≤ den * (num / den) := Nat.le_mul_of_pos_right den hpos
    split
    · omega
    · split <;> omega

theorem le_roundHalfEven {num den k : Nat} (hden : 0 < den) (h : k * den ≤ num) :
    k ≤ roundHalfEven num den := by
  have hquotient : k ≤ num / den := (Nat.le_div_iff_mul_le hden).mpr h
  unfold roundHalfEven
  dsimp only
  split
  · exact hquotient
  · split <;> omega

theorem roundHalfEven_le {num den k : Nat} (hden : 0 < den) (h : num < k * den) :
    roundHalfEven num den ≤ k := by
  have hquotient : num / den < k := (Nat.div_lt_iff_lt_mul hden).mpr h
  unfold roundHalfEven
  dsimp only
  split
  · exact hquotient.le
  · split <;> omega

/-- Below the middle between two natural numbers, the greater one is not reached. -/
theorem roundHalfEven_lt {num den k : Nat} (hden : 0 < den)
    (h : 2 * num < (2 * k + 1) * den) : roundHalfEven num den < k + 1 := by
  have hdivision : den * (num / den) + num % den = num := Nat.div_add_mod num den
  have hquotient : num / den < k + 1 := by
    refine (Nat.div_lt_iff_lt_mul hden).mpr ?_
    rw [Nat.add_mul] at h ⊢
    rw [Nat.mul_assoc] at h
    omega
  rcases Nat.lt_succ_iff_lt_or_eq.mp hquotient with hless | hequal
  · have hsmall : num < k * den := (Nat.div_lt_iff_lt_mul hden).mp hless
    exact Nat.lt_succ_of_le (roundHalfEven_le hden hsmall)
  · rw [hequal, Nat.mul_comm] at hdivision
    rw [Nat.add_mul, Nat.mul_assoc] at h
    have hrest : 2 * (num % den) < den := by omega
    unfold roundHalfEven
    dsimp only
    rw [if_pos hrest, hequal]
    exact Nat.lt_succ_self k

/-! ## Scaled quotients -/

theorem scale_den_pos {num den : Nat} (hden : den ≠ 0) (exponent : Int) :
    0 < (scale num den exponent).2 :=
  Nat.mul_pos (Nat.pos_of_ne_zero hden) (Nat.pow_pos Nat.two_pos)

/-- Scaling divides a quotient by a power of two. -/
theorem scale_quotient (num den : Nat) (exponent : Int) :
    ((scale num den exponent).1 : ℚ) / (scale num den exponent).2 = num / den / 2 ^ exponent := by
  unfold scale
  obtain ⟨n, rfl | rfl⟩ := Int.eq_nat_or_neg exponent
  · simp [div_div]
  · simp [mul_div_right_comm]

/-- A scaled quotient is compared as the quotient itself. -/
theorem scale_le_iff (num : Nat) {den : Nat} (hden : den ≠ 0) (exponent : Int) (k l : Nat) :
    k * (scale num den exponent).1 ≤ l * (scale num den exponent).2 ↔
      (k : ℚ) * (num / den) ≤ l * 2 ^ exponent := by
  have hscaled := scale_quotient num den exponent
  have hpos : (0 : ℚ) < (scale num den exponent).2 := by
    exact_mod_cast scale_den_pos hden exponent
  have hpower : (0 : ℚ) < 2 ^ exponent := zpow_pos two_pos _
  calc
    _ ↔ (k * (scale num den exponent).1 : ℚ) ≤ l * (scale num den exponent).2 := by
      exact_mod_cast Iff.rfl
    _ ↔ (k : ℚ) * ((scale num den exponent).1 / (scale num den exponent).2) ≤ l := by
      rw [← mul_div_assoc, div_le_iff₀ hpos]
    _ ↔ (k : ℚ) * (num / den) ≤ l * 2 ^ exponent := by
      rw [hscaled, ← mul_div_assoc, div_le_iff₀ hpower]

theorem le_scale_iff (num : Nat) {den : Nat} (hden : den ≠ 0) (exponent : Int) (k l : Nat) :
    l * (scale num den exponent).2 ≤ k * (scale num den exponent).1 ↔
      (l : ℚ) * 2 ^ exponent ≤ k * (num / den) := by
  have hscaled := scale_quotient num den exponent
  have hpos : (0 : ℚ) < (scale num den exponent).2 := by
    exact_mod_cast scale_den_pos hden exponent
  have hpower : (0 : ℚ) < 2 ^ exponent := zpow_pos two_pos _
  calc
    _ ↔ (l * (scale num den exponent).2 : ℚ) ≤ k * (scale num den exponent).1 := by
      exact_mod_cast Iff.rfl
    _ ↔ (l : ℚ) ≤ k * ((scale num den exponent).1 / (scale num den exponent).2) := by
      rw [← mul_div_assoc, le_div_iff₀ hpos]
    _ ↔ (l : ℚ) * 2 ^ exponent ≤ k * (num / den) := by
      rw [hscaled, ← mul_div_assoc, le_div_iff₀ hpower]

/-! ## The exponent of a quotient -/

/-- A quotient lies between the powers of two by which its binary lengths differ. -/
theorem two_zpow_log2_le {num den : Nat} (hnum : num ≠ 0) (hden : den ≠ 0) :
    (2 : ℚ) ^ ((num.log2 : ℤ) - den.log2 - 1) ≤ num / den := by
  have hlower : (2 : ℚ) ^ num.log2 ≤ num := by exact_mod_cast Nat.log2_self_le hnum
  have hupper : (den : ℚ) ≤ 2 ^ (den.log2 + 1) := by exact_mod_cast Nat.lt_log2_self.le
  have hpos : (0 : ℚ) < den := by exact_mod_cast Nat.pos_of_ne_zero hden
  calc
    (2 : ℚ) ^ ((num.log2 : ℤ) - den.log2 - 1) = 2 ^ num.log2 / 2 ^ (den.log2 + 1) := by
      rw [sub_sub, zpow_sub₀ two_ne_zero]
      norm_cast
    _ ≤ num / den := div_le_div₀ (Nat.cast_nonneg num) hlower hpos hupper

/-- The logarithms of both numbers give the size of a quotient up to a factor of two. -/
theorem lt_two_zpow_log2 {num den : Nat} (hden : den ≠ 0) :
    (num : ℚ) / den < 2 ^ ((num.log2 : ℤ) - den.log2 + 1) := by
  have hupper : (num : ℚ) < 2 ^ (num.log2 + 1) := by exact_mod_cast Nat.lt_log2_self
  have hlower : (2 : ℚ) ^ den.log2 ≤ den := by exact_mod_cast Nat.log2_self_le hden
  have hpower : (0 : ℚ) < 2 ^ den.log2 := pow_pos two_pos _
  calc
    (num : ℚ) / den ≤ num / 2 ^ den.log2 :=
      div_le_div_of_nonneg_left (Nat.cast_nonneg num) hpower hlower
    _ < 2 ^ (num.log2 + 1) / 2 ^ den.log2 := div_lt_div_of_pos_right hupper hpower
    _ = 2 ^ ((num.log2 : ℤ) - den.log2 + 1) := by
      rw [sub_add_eq_add_sub, zpow_sub₀ two_ne_zero]
      norm_cast

theorem two_pow_mul_two_zpow (n : ℕ) (exponent : ℤ) :
    (2 : ℚ) ^ n * 2 ^ exponent = 2 ^ (n + exponent) := by
  rw [← zpow_natCast, ← zpow_add₀ two_ne_zero]

/-- The exponent is guessed from the binary lengths, and then may be greater by one. -/
theorem quotientExponent_cases {num den : Nat} (hnum : num ≠ 0) (hden : den ≠ 0) :
    ∃ exponent, quotientExponent num den = max leastExponent exponent ∧
      (2 : ℚ) ^ 52 * 2 ^ exponent ≤ num / den ∧ (num : ℚ) / den < 2 ^ 53 * 2 ^ exponent := by
  let guess : Int := num.log2 - den.log2 - precision
  have hlower : (2 : ℚ) ^ 52 * 2 ^ guess ≤ num / den := by
    refine le_of_eq_of_le ?_ (two_zpow_log2_le hnum hden)
    rw [two_pow_mul_two_zpow]
    congr 1
    simp only [guess, precision]
    omega
  have hupper : (num : ℚ) / den < 2 ^ 53 * 2 ^ (guess + 1) := by
    refine lt_of_lt_of_eq (lt_two_zpow_log2 hden) ?_
    rw [two_pow_mul_two_zpow]
    congr 1
    simp only [guess, precision]
    omega
  have hcompare : Nat.pow 2 precision ≤ (scale num den guess).1 / (scale num den guess).2 ↔
      (2 : ℚ) ^ 53 * 2 ^ guess ≤ num / den := by
    rw [Nat.le_div_iff_mul_le (scale_den_pos hden guess), ← Nat.one_mul (scale num den guess).1,
      le_scale_iff num hden]
    norm_num [precision]
  by_cases hlarge : Nat.pow 2 precision ≤ (scale num den guess).1 / (scale num den guess).2
  · refine ⟨guess + 1, congrArg (max leastExponent) (if_pos hlarge), ?_, hupper⟩
    refine le_of_eq_of_le ?_ (hcompare.mp hlarge)
    rw [two_pow_mul_two_zpow, two_pow_mul_two_zpow]
    congr 1
    omega
  · refine ⟨guess, congrArg (max leastExponent) (if_neg hlarge), hlower, ?_⟩
    exact not_le.mp fun hle ↦ hlarge (hcompare.mpr hle)

/-- A quotient has at most 53 binary digits before the point at its exponent. -/
theorem lt_quotientExponent {num den : Nat} (hnum : num ≠ 0) (hden : den ≠ 0) :
    (num : ℚ) / den < 2 ^ 53 * 2 ^ quotientExponent num den := by
  obtain ⟨exponent, hexponent, -, hupper⟩ := quotientExponent_cases hnum hden
  have hle : exponent ≤ quotientExponent num den := by
    rw [hexponent]
    exact le_max_right _ _
  refine hupper.trans_le (mul_le_mul_of_nonneg_left ?_ (pow_pos two_pos _).le)
  exact zpow_le_zpow_right₀ one_le_two hle

/-- Above the least exponent, a quotient has exactly 53 binary digits before the point. -/
theorem quotientExponent_le {num den : Nat} (hnum : num ≠ 0) (hden : den ≠ 0)
    (h : leastExponent < quotientExponent num den) :
    (2 : ℚ) ^ 52 * 2 ^ quotientExponent num den ≤ num / den := by
  obtain ⟨exponent, hexponent, hlower, -⟩ := quotientExponent_cases hnum hden
  have hself : quotientExponent num den = exponent := by
    rw [hexponent] at h ⊢
    exact max_eq_right (le_of_not_ge fun hge ↦ h.ne' (max_eq_left hge))
  rw [hself]
  exact hlower

/-! ## The mantissa of a quotient -/

/-- The quotient of two natural numbers, rounded at its exponent. -/
def quotientMantissa (num den : Nat) : Nat :=
  roundHalfEven (scale num den (quotientExponent num den)).1
    (scale num den (quotientExponent num den)).2

theorem leastExponent_le (num den : Nat) : leastExponent ≤ quotientExponent num den :=
  le_max_left _ _

/-- The mantissa is zero exactly where the quotient is at most half of the least positive double. -/
theorem quotientMantissa_eq_zero_iff {num den : Nat} (hnum : num ≠ 0) (hden : den ≠ 0) :
    quotientMantissa num den = 0 ↔ (num : ℚ) / den ≤ halfLeast := by
  have hleast : (2 : ℚ) ^ leastExponent = 2 * halfLeast := by
    rw [halfLeast, ← zpow_one_add₀ two_ne_zero]
    rfl
  have hcompare := scale_le_iff num hden (quotientExponent num den) 2 1
  rw [Nat.one_mul, Nat.cast_two, Nat.cast_one, one_mul] at hcompare
  rw [quotientMantissa, roundHalfEven_eq_zero_iff (scale_den_pos hden _), hcompare]
  rcases (leastExponent_le num den).eq_or_lt with hexponent | hexponent
  · rw [← hexponent, hleast]
    constructor <;> intro h <;> linarith
  · -- The mantissa of a normal double is far from zero.
    have hlower := quotientExponent_le hnum hden hexponent
    have hlarge : (2 : ℚ) ^ leastExponent ≤ 2 ^ quotientExponent num den :=
      zpow_le_zpow_right₀ one_le_two hexponent.le
    have hpower : (0 : ℚ) < 2 ^ leastExponent := zpow_pos two_pos _
    refine iff_of_false (fun h ↦ ?_) fun h ↦ ?_
    · linarith
    · linarith

/-- A mantissa has 53 bits at most, or it is the next power of two. -/
theorem quotientMantissa_le {num den : Nat} (hnum : num ≠ 0) (hden : den ≠ 0) :
    quotientMantissa num den ≤ 2 ^ 53 := by
  refine roundHalfEven_le (scale_den_pos hden _) (not_le.mp fun hle ↦ ?_)
  rw [← Nat.one_mul (scale num den (quotientExponent num den)).1, le_scale_iff num hden] at hle
  have hupper := lt_quotientExponent hnum hden
  norm_num at hle hupper
  linarith

/-- Above the least exponent it has 53 bits. -/
theorem le_quotientMantissa {num den : Nat} (hnum : num ≠ 0) (hden : den ≠ 0)
    (h : leastExponent < quotientExponent num den) : 2 ^ 52 ≤ quotientMantissa num den := by
  refine le_roundHalfEven (scale_den_pos hden _) ?_
  rw [← Nat.one_mul (scale num den (quotientExponent num den)).1, le_scale_iff num hden]
  have hlower := quotientExponent_le hnum hden h
  norm_num at hlower ⊢
  linarith

/-! ## Signs and zeros -/

/-- A finite double with the sign of the number that is rounded, and zero where the number is at most
half of the least positive double. -/
structure Rounds (negative : Bool) (number : ℚ) (x : Finite) : Prop where
  sign : x.negative = negative
  zero : x.mantissa = 0 ↔ number ≤ halfLeast

theorem halfLeast_pos : 0 < halfLeast := zpow_pos two_pos _

/-- A number this small is rounded to zero. -/
theorem rounds_zero {negative : Bool} {number : ℚ} {x : Finite} (hnumber : number ≤ halfLeast)
    (h : zero negative = .finite x) : Rounds negative number x := by
  obtain rfl := Double.finite.inj h
  exact ⟨rfl, iff_of_true rfl hnumber⟩

theorem finite_of_pack {negative : Bool} {mantissa : Nat} {exponent : Int} {x : Finite}
    (h : pack negative mantissa exponent = .finite x) :
    x.negative = negative ∧ x.mantissa = mantissa ∧ x.exponent = exponent := by
  unfold pack at h
  split at h
  · obtain rfl := Double.finite.inj h
    exact ⟨rfl, rfl, rfl⟩
  · cases h

theorem rounds_ofQuotient {negative : Bool} {num den : Nat} {x : Finite} (hden : den ≠ 0)
    (h : ofQuotient negative num den = .finite x) : Rounds negative (num / den) x := by
  unfold ofQuotient at h
  split at h
  · rename_i hnum
    refine rounds_zero ?_ h
    rw [hnum, Nat.cast_zero, zero_div]
    exact halfLeast_pos.le
  · rename_i hnum
    have hzero := quotientMantissa_eq_zero_iff hnum hden
    change (if quotientMantissa num den = _ then _ else
      pack negative (quotientMantissa num den) _) = _ at h
    split at h
    · rename_i hmantissa
      obtain ⟨hsign, hx, -⟩ := finite_of_pack h
      refine ⟨hsign, ?_⟩
      rw [← hzero, hx, hmantissa]
      exact iff_of_false (by decide) (by decide)
    · obtain ⟨hsign, hx, -⟩ := finite_of_pack h
      exact ⟨hsign, by rw [← hzero, hx]⟩

/-- A decimal exponent that is far too small leaves nothing of a number. -/
theorem decimal_le_halfLeast {digits : Nat} {exponent : Int}
    (h : exponent + (digits.log2 + 1) < -decimalBound) :
    (digits : ℚ) * 10 ^ exponent ≤ halfLeast := by
  have hdigits : (digits : ℚ) ≤ 10 ^ ((digits.log2 : ℤ) + 1) := by
    calc
      (digits : ℚ) ≤ 2 ^ (digits.log2 + 1) := by exact_mod_cast Nat.lt_log2_self.le
      _ ≤ 10 ^ (digits.log2 + 1) := pow_le_pow_left₀ two_pos.le (by norm_num) _
      _ = 10 ^ ((digits.log2 : ℤ) + 1) := by norm_cast
  have hbound : (digits.log2 : ℤ) + 1 + exponent ≤ -((401 : ℕ) : ℤ) := by
    unfold decimalBound at h
    omega
  have hhalf : (-1075 : ℤ) = -((1075 : ℕ) : ℤ) := rfl
  have hpowers : (2 : ℚ) ^ 1075 ≤ 10 ^ 401 := by
    calc
      (2 : ℚ) ^ 1075 ≤ 2 ^ (3 * 401) := pow_le_pow_right₀ one_le_two (by decide)
      _ = (2 ^ 3) ^ 401 := pow_mul _ _ _
      _ ≤ 10 ^ 401 := pow_le_pow_left₀ (by norm_num) (by norm_num) _
  calc
    (digits : ℚ) * 10 ^ exponent ≤ 10 ^ ((digits.log2 : ℤ) + 1) * 10 ^ exponent :=
      mul_le_mul_of_nonneg_right hdigits (zpow_pos (by norm_num) _).le
    _ = 10 ^ ((digits.log2 : ℤ) + 1 + exponent) := (zpow_add₀ (by norm_num) _ _).symm
    _ ≤ 10 ^ (-((401 : ℕ) : ℤ)) := zpow_le_zpow_right₀ (by norm_num) hbound
    _ = (10 ^ 401)⁻¹ := by rw [zpow_neg, zpow_natCast]
    _ ≤ (2 ^ 1075)⁻¹ := inv_anti₀ (pow_pos two_pos _) hpowers
    _ = halfLeast := by rw [halfLeast, hhalf, zpow_neg, zpow_natCast]

/-- A decimal is a quotient of two natural numbers. -/
theorem decimal_quotient (digits : Nat) (exponent : Int) :
    ((digits * Nat.pow 10 exponent.toNat : Nat) : ℚ) / (Nat.pow 10 (-exponent).toNat : Nat) =
      digits * 10 ^ exponent := by
  obtain ⟨n, rfl | rfl⟩ := Int.eq_nat_or_neg exponent
  · simp
  · simp [div_eq_mul_inv]

/-- Rounding a decimal number keeps its sign, and gives zero where the number is at most half of the
least positive double. -/
theorem rounds_ofDecimal {negative : Bool} {digits : Nat} {exponent : Int} {x : Finite}
    (h : ofDecimal negative digits exponent = .finite x) :
    Rounds negative (digits * 10 ^ exponent) x := by
  unfold ofDecimal at h
  split at h
  · rename_i hdigits
    refine rounds_zero ?_ h
    rw [hdigits, Nat.cast_zero, zero_mul]
    exact halfLeast_pos.le
  · split at h
    · cases h
    · split at h
      · rename_i hsmall
        exact rounds_zero (decimal_le_halfLeast hsmall) h
      · rw [← decimal_quotient]
        exact rounds_ofQuotient (Nat.pow_pos (by decide)).ne' h

/-! ## Infinity -/

theorem two_zpow_970_pos : (0 : ℚ) < 2 ^ (970 : ℤ) := zpow_pos two_pos _

/-- A number in range has an exponent in range. -/
theorem quotientExponent_le_of_lt {num den : Nat} (hnum : num ≠ 0) (hden : den ≠ 0)
    (h : (num : ℚ) / den < overflow) : quotientExponent num den ≤ greatestExponent := by
  by_contra hlarge
  have hexponent : (972 : ℤ) ≤ quotientExponent num den := by
    unfold greatestExponent at hlarge
    omega
  have hlower : (2 : ℚ) ^ 52 * 2 ^ quotientExponent num den ≤ num / den :=
    quotientExponent_le hnum hden (by unfold leastExponent; omega)
  have hpower : (2 : ℚ) ^ (972 : ℤ) ≤ 2 ^ quotientExponent num den :=
    zpow_le_zpow_right₀ one_le_two hexponent
  have hreached : overflow ≤ num / den := by
    calc
      overflow ≤ 2 ^ 54 * 2 ^ (970 : ℤ) := by
        refine mul_le_mul_of_nonneg_right ?_ two_zpow_970_pos.le
        norm_num
      _ = 2 ^ 52 * 2 ^ (972 : ℤ) := by
        rw [two_pow_mul_two_zpow, two_pow_mul_two_zpow]
        rfl
      _ ≤ 2 ^ 52 * 2 ^ quotientExponent num den :=
        mul_le_mul_of_nonneg_left hpower (pow_pos two_pos _).le
      _ ≤ num / den := hlower
  exact h.not_ge hreached

/-- At the greatest exponent, the mantissa is not rounded up to the next power of two. -/
theorem quotientMantissa_lt {num den : Nat} (hden : den ≠ 0) (h : (num : ℚ) / den < overflow)
    (hexponent : quotientExponent num den = greatestExponent) :
    quotientMantissa num den < 2 ^ 53 - 1 + 1 := by
  refine roundHalfEven_lt (scale_den_pos hden _) (not_le.mp fun hle ↦ ?_)
  have hsplit : (2 : ℚ) ^ greatestExponent = 2 ^ 1 * 2 ^ (970 : ℤ) :=
    (two_pow_mul_two_zpow 1 970).symm
  have hpos := two_zpow_970_pos
  rw [le_scale_iff num hden, hexponent, hsplit] at hle
  unfold overflow at h
  generalize (2 : ℚ) ^ (970 : ℤ) = unit at *
  norm_num at h hle
  linarith

theorem isFinite_pack {negative : Bool} {mantissa : Nat} {exponent : Int}
    (h : Canonical mantissa exponent) : (pack negative mantissa exponent).isFinite = true := by
  rw [pack, dif_pos h]
  rfl

/-- A quotient in range is not rounded to infinity. -/
theorem isFinite_ofQuotient {negative : Bool} {num den : Nat} (hden : den ≠ 0)
    (h : (num : ℚ) / den < overflow) : (ofQuotient negative num den).isFinite = true := by
  unfold ofQuotient
  split
  · rfl
  · rename_i hnum
    have hleast := leastExponent_le num den
    have hgreatest := quotientExponent_le_of_lt hnum hden h
    have hmantissa := quotientMantissa_le hnum hden
    change (if quotientMantissa num den = _ then _ else
      pack negative (quotientMantissa num den) _).isFinite = true
    split
    · rename_i hfull
      refine isFinite_pack ⟨by decide, by omega, ?_, .inl le_rfl⟩
      by_contra hlarge
      have hexponent : quotientExponent num den = greatestExponent := by omega
      have hlt := quotientMantissa_lt hden h hexponent
      rw [hfull] at hlt
      exact absurd hlt (by decide)
    · rename_i hfull
      refine isFinite_pack ⟨lt_of_le_of_ne hmantissa hfull, hleast, hgreatest, ?_⟩
      rcases hleast.eq_or_lt with hequal | hless
      · exact .inr hequal.symm
      · exact .inl (le_quotientMantissa hnum hden hless)

theorem two_pow_le_decimal {digits : Nat} {exponent : Int} (hdigits : digits ≠ 0)
    (h : decimalBound < exponent) : (2 : ℚ) ^ 1024 ≤ digits * 10 ^ exponent := by
  have hone : (1 : ℚ) ≤ digits := by exact_mod_cast Nat.pos_of_ne_zero hdigits
  have hexponent : ((400 : ℕ) : ℤ) ≤ exponent := h.le
  calc
    (2 : ℚ) ^ 1024 ≤ 2 ^ (3 * 400) := pow_le_pow_right₀ one_le_two (by decide)
    _ = (2 ^ 3) ^ 400 := pow_mul _ _ _
    _ ≤ 10 ^ 400 := pow_le_pow_left₀ (by norm_num) (by norm_num) _
    _ = 10 ^ ((400 : ℕ) : ℤ) := (zpow_natCast 10 400).symm
    _ ≤ 10 ^ exponent := zpow_le_zpow_right₀ (by norm_num) hexponent
    _ = 1 * 10 ^ exponent := (one_mul _).symm
    _ ≤ digits * 10 ^ exponent :=
      mul_le_mul_of_nonneg_right hone (zpow_pos (by norm_num) _).le

theorem overflow_lt_decimal {digits : Nat} {exponent : Int} (hdigits : digits ≠ 0)
    (h : decimalBound < exponent) : overflow < digits * 10 ^ exponent := by
  calc
    overflow < 2 ^ 54 * 2 ^ (970 : ℤ) := by
      refine mul_lt_mul_of_pos_right ?_ two_zpow_970_pos
      norm_num
    _ = 2 ^ 1024 := by
      rw [two_pow_mul_two_zpow, ← zpow_natCast]
      rfl
    _ ≤ digits * 10 ^ exponent := two_pow_le_decimal hdigits h

/-- A decimal number below the middle between the greatest double and the next power of two is
rounded to a finite double. -/
theorem isFinite_ofDecimal {negative : Bool} {digits : Nat} {exponent : Int}
    (h : (digits : ℚ) * 10 ^ exponent < overflow) :
    (ofDecimal negative digits exponent).isFinite = true := by
  unfold ofDecimal
  split
  · rfl
  · rename_i hdigits
    split
    · rename_i hlarge
      exact absurd h (overflow_lt_decimal hdigits hlarge).le.not_gt
    · split
      · rfl
      · refine isFinite_ofQuotient (Nat.pow_pos (by decide)).ne' ?_
        rw [decimal_quotient]
        exact h

end Schematic.Double
