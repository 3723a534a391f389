import Mathlib.Tactic.Ring
import Schematic.Number.Shortest
import Schematic.Proofs.Rounding

/-!
# The double nearest to a number

Rounding depends on the number alone, not on the numerator and denominator or on the decimal
by which it is given, and the bounds on decimal exponents only spare work. The number that a
finite double stands for is rounded to that double. So the shortest decimal of a double reads
back: it was tried, or it is the exact expansion, and trailing zeros do not change the number.
-/

namespace Schematic.Double

/-! ## The nearest natural number of a number -/

theorem roundHalfEven_mul_right (num den : Nat) {k : Nat} (hk : 0 < k) :
    roundHalfEven (num * k) (den * k) = roundHalfEven num den := by
  have hrest (a b : Nat) : 2 * (a * k) < b * k ↔ 2 * a < b := by
    rw [← Nat.mul_assoc]
    exact Nat.mul_lt_mul_right hk
  have hless (a b : Nat) : b * k < 2 * (a * k) ↔ b < 2 * a := by
    rw [← Nat.mul_assoc]
    exact Nat.mul_lt_mul_right hk
  unfold roundHalfEven
  simp only [Nat.mul_div_mul_right _ _ hk, Nat.mul_mod_mul_right, hrest, hless]

theorem roundHalfEven_congr {num den num' den' : Nat} (hden : 0 < den) (hden' : 0 < den')
    (h : num * den' = num' * den) : roundHalfEven num den = roundHalfEven num' den' := by
  calc
    roundHalfEven num den = roundHalfEven (num * den') (den * den') :=
      (roundHalfEven_mul_right num den hden').symm
    _ = roundHalfEven (num' * den) (den' * den) := by rw [h, Nat.mul_comm den den']
    _ = roundHalfEven num' den' := roundHalfEven_mul_right num' den' hden

theorem roundHalfEven_one (n : Nat) : roundHalfEven n 1 = n := by
  simp [roundHalfEven, Nat.mod_one]

/-! ## The exponent and the mantissa of a number -/

/-- A number with 53 binary digits before the point at one exponent has as many at no other. -/
theorem exponent_le_of_bounds {number : ℚ} {exponent exponent' : ℤ}
    (hlower : (2 : ℚ) ^ 52 * 2 ^ exponent ≤ number) (hupper : number < 2 ^ 53 * 2 ^ exponent') :
    exponent ≤ exponent' := by
  have hpowers : (2 : ℚ) ^ ((52 : ℕ) + exponent) < 2 ^ ((53 : ℕ) + exponent') := by
    rw [← two_pow_mul_two_zpow, ← two_pow_mul_two_zpow]
    exact hlower.trans_lt hupper
  have hexponents := (zpow_lt_zpow_iff_right₀ one_lt_two).mp hpowers
  push_cast at hexponents
  omega

theorem quotientExponent_congr {num den num' den' : Nat} (hnum : num ≠ 0) (hden : den ≠ 0)
    (hnum' : num' ≠ 0) (hden' : den' ≠ 0) (h : (num : ℚ) / den = num' / den') :
    quotientExponent num den = quotientExponent num' den' := by
  obtain ⟨exponent, hexponent, hlower, hupper⟩ := quotientExponent_cases hnum hden
  obtain ⟨exponent', hexponent', hlower', hupper'⟩ := quotientExponent_cases hnum' hden'
  rw [← h] at hlower' hupper'
  have hle := exponent_le_of_bounds hlower hupper'
  have hge := exponent_le_of_bounds hlower' hupper
  rw [hexponent, hexponent', le_antisymm hle hge]

theorem quotientMantissa_congr {num den num' den' : Nat} (hnum : num ≠ 0) (hden : den ≠ 0)
    (hnum' : num' ≠ 0) (hden' : den' ≠ 0) (h : (num : ℚ) / den = num' / den') :
    quotientMantissa num den = quotientMantissa num' den' := by
  have hscaled := scale_quotient num den (quotientExponent num den)
  have hscaled' := scale_quotient num' den' (quotientExponent num den)
  have hpos : 0 < (scale num den (quotientExponent num den)).2 := scale_den_pos hden _
  have hpos' : 0 < (scale num' den' (quotientExponent num den)).2 := scale_den_pos hden' _
  rw [h, ← hscaled', div_eq_div_iff (by exact_mod_cast hpos.ne') (by exact_mod_cast hpos'.ne')]
    at hscaled
  unfold quotientMantissa
  rw [← quotientExponent_congr hnum hden hnum' hden' h]
  exact roundHalfEven_congr hpos hpos' (by exact_mod_cast hscaled)

theorem ofQuotient_of_ne_zero (negative : Bool) {num : Nat} (hnum : num ≠ 0) (den : Nat) :
    ofQuotient negative num den =
      if quotientMantissa num den = Nat.pow 2 precision then
        pack negative (Nat.pow 2 (precision - 1)) (quotientExponent num den + 1)
      else pack negative (quotientMantissa num den) (quotientExponent num den) :=
  if_neg hnum

/-- Rounding depends on the number only. -/
theorem ofQuotient_congr (negative : Bool) {num den num' den' : Nat} (hden : den ≠ 0)
    (hden' : den' ≠ 0) (h : (num : ℚ) / den = num' / den') :
    ofQuotient negative num den = ofQuotient negative num' den' := by
  have hiff : num = 0 ↔ num' = 0 := by
    have hzero : (num : ℚ) / den = 0 ↔ (num' : ℚ) / den' = 0 := by rw [h]
    simpa [hden, hden'] using hzero
  by_cases hnum : num = 0
  · rw [hnum, hiff.mp hnum]
    rfl
  · have hnum' := mt hiff.mpr hnum
    rw [ofQuotient_of_ne_zero negative hnum, ofQuotient_of_ne_zero negative hnum',
      quotientExponent_congr hnum hden hnum' hden' h,
      quotientMantissa_congr hnum hden hnum' hden' h]

/-! ## The number of a double -/

def Finite.magnitude (x : Finite) : ℚ :=
  x.mantissa * 2 ^ x.exponent

theorem Finite.magnitude_eq_zero_iff {x : Finite} : x.magnitude = 0 ↔ x.mantissa = 0 := by
  have hpower : (2 : ℚ) ^ x.exponent ≠ 0 := (zpow_pos two_pos _).ne'
  rw [magnitude, mul_eq_zero, or_iff_left hpower, Nat.cast_eq_zero]

theorem Finite.exponent_eq_of_mantissa_eq_zero {x : Finite} (h : x.mantissa = 0) :
    x.exponent = leastExponent := by
  refine x.canonical.2.2.2.resolve_left fun hlarge ↦ ?_
  rw [h] at hlarge
  exact absurd hlarge (by decide)

theorem zero_eq_finite {x : Finite} (h : x.mantissa = 0) : zero x.negative = .finite x := by
  have hexponent := Finite.exponent_eq_of_mantissa_eq_zero h
  obtain ⟨negative, mantissa, exponent, hcanonical⟩ := x
  dsimp only at h hexponent
  subst h hexponent
  rfl

/-- A quotient is zero where the double is. -/
theorem num_eq_zero_iff_of_magnitude {x : Finite} {num den : Nat} (hden : den ≠ 0)
    (h : (num : ℚ) / den = x.magnitude) : num = 0 ↔ x.mantissa = 0 := by
  rw [← Finite.magnitude_eq_zero_iff, ← h, div_eq_zero_iff, Nat.cast_eq_zero, Nat.cast_eq_zero,
    or_iff_left hden]

/-- The number of a double has that double's exponent. -/
theorem quotientExponent_of_magnitude {x : Finite} {num den : Nat} (hx : x.mantissa ≠ 0)
    (hden : den ≠ 0) (h : (num : ℚ) / den = x.magnitude) :
    quotientExponent num den = x.exponent := by
  obtain ⟨hmantissa, hleast, -, hform⟩ := x.canonical
  have hpower : (0 : ℚ) < 2 ^ x.exponent := zpow_pos two_pos _
  have hnum : num ≠ 0 := mt (num_eq_zero_iff_of_magnitude hden h).mp hx
  obtain ⟨exponent, hexponent, hlower, hupper⟩ := quotientExponent_cases hnum hden
  have hbelow : x.magnitude < 2 ^ 53 * 2 ^ x.exponent := by
    refine mul_lt_mul_of_pos_right ?_ hpower
    exact_mod_cast hmantissa
  have hle : exponent ≤ x.exponent := exponent_le_of_bounds hlower (h.trans_lt hbelow)
  rw [hexponent]
  rcases hform with hnormal | hsubnormal
  · have habove : (2 : ℚ) ^ 52 * 2 ^ x.exponent ≤ x.magnitude := by
      refine mul_le_mul_of_nonneg_right ?_ hpower.le
      exact_mod_cast hnormal
    have hge := exponent_le_of_bounds (habove.trans_eq h.symm) hupper
    omega
  · omega

/-- The number of a double is rounded to that double. -/
theorem ofQuotient_of_magnitude {x : Finite} {num den : Nat} (hden : den ≠ 0)
    (h : (num : ℚ) / den = x.magnitude) : ofQuotient x.negative num den = .finite x := by
  by_cases hx : x.mantissa = 0
  · rw [ofQuotient, if_pos ((num_eq_zero_iff_of_magnitude hden h).mpr hx)]
    exact zero_eq_finite hx
  · have hpower : (0 : ℚ) < 2 ^ x.exponent := zpow_pos two_pos _
    have hnum : num ≠ 0 := mt (num_eq_zero_iff_of_magnitude hden h).mp hx
    have hexponent := quotientExponent_of_magnitude hx hden h
    have hpos : 0 < (scale num den x.exponent).2 := scale_den_pos hden _
    have hscaled := scale_quotient num den x.exponent
    rw [h, Finite.magnitude, mul_div_cancel_right₀ _ hpower.ne',
      div_eq_iff (by exact_mod_cast hpos.ne')] at hscaled
    have hmantissa : quotientMantissa num den = x.mantissa := by
      unfold quotientMantissa
      rw [hexponent, ← roundHalfEven_one x.mantissa]
      apply roundHalfEven_congr hpos Nat.one_pos
      rw [Nat.mul_one]
      exact_mod_cast hscaled
    rw [ofQuotient_of_ne_zero x.negative hnum, hmantissa, hexponent,
      if_neg x.canonical.1.ne, pack, dif_pos x.canonical]

/-! ## Decimals -/

/-- A quotient too large for a double becomes infinite. -/
theorem ofQuotient_of_large (negative : Bool) {num den : Nat} (hden : den ≠ 0)
    (h : (2 : ℚ) ^ 1024 ≤ num / den) : ofQuotient negative num den = .infinite negative := by
  have hnum : num ≠ 0 := by
    rintro rfl
    rw [Nat.cast_zero, zero_div] at h
    exact h.not_gt (pow_pos two_pos _)
  obtain ⟨exponent, hexponent, -, hupper⟩ := quotientExponent_cases hnum hden
  have hpower : (2 : ℚ) ^ 1024 = 2 ^ 52 * 2 ^ (972 : ℤ) := by
    rw [two_pow_mul_two_zpow, ← zpow_natCast]
    rfl
  have hlarge : 972 ≤ exponent := exponent_le_of_bounds (hpower.symm.trans_le h) hupper
  have hbeyond (mantissa : Nat) {exponent : Int} (hle : 972 ≤ exponent) :
      pack negative mantissa exponent = .infinite negative := by
    refine dif_neg fun hcanonical ↦ ?_
    have hgreatest := hcanonical.2.2.1
    unfold greatestExponent at hgreatest
    omega
  rw [ofQuotient_of_ne_zero negative hnum, hexponent, hbeyond _ (by omega), hbeyond _ (by omega),
    ite_self]

theorem ofQuotient_of_small (negative : Bool) {num den : Nat} (hnum : num ≠ 0) (hden : den ≠ 0)
    (h : (num : ℚ) / den ≤ halfLeast) : ofQuotient negative num den = zero negative := by
  have hmantissa := (quotientMantissa_eq_zero_iff hnum hden).mpr h
  have hexponent : quotientExponent num den = leastExponent := by
    refine ((leastExponent_le num den).eq_or_lt.resolve_right fun hless ↦ ?_).symm
    have hlarge := le_quotientMantissa hnum hden hless
    rw [hmantissa] at hlarge
    exact absurd hlarge (by decide)
  rw [ofQuotient_of_ne_zero negative hnum, hmantissa, hexponent]
  rfl

theorem pow_ten_ne_zero (n : Nat) : Nat.pow 10 n ≠ 0 :=
  (Nat.pow_pos (by decide)).ne'

/-- The bounds on the exponent of a decimal do not change the double. -/
theorem ofDecimal_eq_ofQuotient (negative : Bool) (digits : Nat) (exponent : Int) :
    ofDecimal negative digits exponent =
      ofQuotient negative (digits * Nat.pow 10 exponent.toNat)
        (Nat.pow 10 (-exponent).toNat) := by
  by_cases hdigits : digits = 0
  · rw [hdigits, Nat.zero_mul]
    rfl
  · have hnum : digits * Nat.pow 10 exponent.toNat ≠ 0 := Nat.mul_ne_zero hdigits (pow_ten_ne_zero _)
    rw [ofDecimal, if_neg hdigits]
    split
    · rename_i hlarge
      refine (ofQuotient_of_large negative (pow_ten_ne_zero _) ?_).symm
      rw [decimal_quotient]
      exact two_pow_le_decimal hdigits hlarge
    · split
      · rename_i hsmall
        refine (ofQuotient_of_small negative hnum (pow_ten_ne_zero _) ?_).symm
        rw [decimal_quotient]
        exact decimal_le_halfLeast hsmall
      · rfl

/-- Two decimals of one number stand for the same double. -/
theorem ofDecimal_congr (negative : Bool) {digits digits' : Nat} {exponent exponent' : Int}
    (h : (digits : ℚ) * 10 ^ exponent = digits' * 10 ^ exponent') :
    ofDecimal negative digits exponent = ofDecimal negative digits' exponent' := by
  rw [ofDecimal_eq_ofQuotient, ofDecimal_eq_ofQuotient]
  apply ofQuotient_congr negative (pow_ten_ne_zero _) (pow_ten_ne_zero _)
  rw [decimal_quotient, decimal_quotient, h]

/-- A double is the rounding of every decimal that equals it. -/
theorem ofDecimal_of_magnitude {x : Finite} {digits : Nat} {exponent : Int}
    (h : (digits : ℚ) * 10 ^ exponent = x.magnitude) :
    ofDecimal x.negative digits exponent = .finite x := by
  rw [ofDecimal_eq_ofQuotient]
  apply ofQuotient_of_magnitude (pow_ten_ne_zero _)
  rw [decimal_quotient, h]

/-! ## The shortest decimal -/

def Decimal.number (decimal : Decimal) : ℚ :=
  decimal.digits * 10 ^ decimal.exponent

/-- Zeros at the end of a decimal do not change its number. -/
theorem Decimal.number_trimZeros (steps : Nat) (decimal : Decimal) :
    (decimal.trimZeros steps).number = decimal.number := by
  induction steps generalizing decimal with
  | zero => rfl
  | succ steps ih =>
    unfold trimZeros
    split
    · rename_i hzero
      have hdigits : decimal.digits = decimal.digits / 10 * 10 := by omega
      have hcast : (decimal.digits : ℚ) = (decimal.digits / 10 : Nat) * 10 := by
        exact_mod_cast hdigits
      rw [ih, number, number, hcast, zpow_add_one₀ (by norm_num)]
      ring
    · rfl

/-- The exact decimal of a double equals it. -/
theorem number_exactDecimal (x : Finite) : (exactDecimal x).number = x.magnitude := by
  unfold exactDecimal Decimal.number Finite.magnitude
  obtain ⟨n, hn | hn⟩ := Int.eq_nat_or_neg x.exponent
  · rw [hn]
    simp
  · have htwo : (10 : ℚ) ^ n = 2 ^ n * 5 ^ n := by
      rw [← mul_pow]
      norm_num
    rw [hn]
    simp only [neg_neg, Int.toNat_natCast, Int.toNat_neg_natCast, Nat.pow_eq, pow_zero, mul_one,
      Nat.cast_mul, Nat.cast_pow, Nat.cast_ofNat, zpow_neg, zpow_natCast]
    rw [htwo]
    field_simp

/-- A decimal that is found for a count of digits has been read back. -/
theorem ofDecimal_of_decimalOfCount? {x : Finite} {count : Nat} {decimal : Decimal}
    (h : decimalOfCount? x count = some decimal) :
    ofDecimal x.negative decimal.digits decimal.exponent = .finite x := by
  unfold decimalOfCount? at h
  dsimp only at h
  obtain ⟨digits, hdigits, rfl⟩ := Option.map_eq_some_iff.mp h
  dsimp only
  split at hdigits
  · rename_i hbelow habove
    have hread := of_decide_eq_true hbelow
    have hread' := of_decide_eq_true habove
    split_ifs at hdigits
    · obtain rfl := Option.some.inj hdigits
      exact hread
    · obtain rfl := Option.some.inj hdigits
      exact hread'
    · obtain rfl := Option.some.inj hdigits
      rcases Nat.mod_two_eq_zero_or_one _ with heven | hodd
      · rw [heven]
        exact hread
      · rw [hodd]
        exact hread'
  · rename_i hbelow _
    obtain rfl := Option.some.inj hdigits
    exact of_decide_eq_true hbelow
  · rename_i _ habove
    obtain rfl := Option.some.inj hdigits
    exact of_decide_eq_true habove
  · cases hdigits

/-- The shortest decimal of a double reads back as that double. -/
theorem ofDecimal_shortest (x : Finite) :
    ofDecimal x.negative (shortest x).digits (shortest x).exponent = .finite x := by
  have htrimmed {decimal : Decimal} (hread : ofDecimal x.negative decimal.digits decimal.exponent =
      .finite x) (steps : Nat) : ofDecimal x.negative (decimal.trimZeros steps).digits
        (decimal.trimZeros steps).exponent = .finite x := by
    rw [← hread]
    exact ofDecimal_congr x.negative (decimal.number_trimZeros steps)
  refine htrimmed ?_ _
  cases hfound : (List.range' 1 17).findSome? (decimalOfCount? x) with
  | none => exact ofDecimal_of_magnitude (number_exactDecimal x)
  | some decimal =>
    obtain ⟨count, -, hcount⟩ := List.exists_of_findSome?_eq_some hfound
    exact ofDecimal_of_decimalOfCount? hcount

end Schematic.Double
