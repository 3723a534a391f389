import Mathlib.Algebra.Order.Group.Unbundled.Abs
import Mathlib.Data.Nat.Cast.Field
import Schematic.Proofs.NearestDouble

/-!
# Nearness of doubles

A decimal is rounded to the double nearest to it: no finite double is nearer, and where another
one is as near, the mantissa of the result is even. A number is infinite from the middle between
the greatest double and the next power of two on. At the exponent of a number, any other double
is a natural multiple of the unit or lies below every number with that exponent, so it is
enough to know that the mantissa is the nearest natural number.
-/

namespace Schematic.Double

def signedNumber (negative : Bool) (magnitude : ℚ) : ℚ :=
  if negative then -magnitude else magnitude

def Finite.number (x : Finite) : ℚ :=
  signedNumber x.negative x.magnitude

/-- A finite double nearest to a number, with the number's sign even where it is zero. -/
structure Finite.IsNearest (x : Finite) (negative : Bool) (magnitude : ℚ) : Prop where
  sign : x.negative = negative
  below : magnitude < overflow
  nearest : ∀ y : Finite, |signedNumber negative magnitude - x.number| ≤
    |signedNumber negative magnitude - y.number|
  even : ∀ y : Finite, |signedNumber negative magnitude - y.number| =
    |signedNumber negative magnitude - x.number| → y.number ≠ x.number → x.mantissa % 2 = 0

def IsNearest (negative : Bool) (magnitude : ℚ) : Double → Prop
  | finite x => x.IsNearest negative magnitude
  | infinite sign => sign = negative ∧ overflow ≤ magnitude
  | nan => False

/-! ## The nearest natural number -/

/-- Rounding goes to the nearest natural number, and to the even one from the middle. -/
theorem abs_sub_roundHalfEven (num : Nat) {den : Nat} (hden : 0 < den) :
    |(num : ℚ) / den - roundHalfEven num den| ≤ 1 / 2 ∧
      (|(num : ℚ) / den - roundHalfEven num den| = 1 / 2 → roundHalfEven num den % 2 = 0) := by
  have hpos : (0 : ℚ) < den := by exact_mod_cast hden
  have hdivision : (num : ℚ) = den * (num / den : Nat) + (num % den : Nat) := by
    exact_mod_cast (Nat.div_add_mod num den).symm
  have hquotient : (num : ℚ) / den = (num / den : Nat) + ((num % den : Nat) : ℚ) / den := by
    rw [div_eq_iff hpos.ne', add_mul, div_mul_cancel₀ _ hpos.ne', mul_comm]
    exact hdivision
  have hrest : (0 : ℚ) ≤ ((num % den : Nat) : ℚ) / den :=
    div_nonneg (Nat.cast_nonneg _) hpos.le
  have hless : ((num % den : Nat) : ℚ) / den < 1 := by
    rw [div_lt_iff₀ hpos, one_mul]
    exact_mod_cast Nat.mod_lt num hden
  have hbelow : 2 * (num % den) < den → ((num % den : Nat) : ℚ) / den < 1 / 2 := by
    intro h
    rw [div_lt_div_iff₀ hpos two_pos, one_mul, mul_comm]
    exact_mod_cast h
  have habove : den < 2 * (num % den) → 1 / 2 < ((num % den : Nat) : ℚ) / den := by
    intro h
    rw [div_lt_div_iff₀ two_pos hpos, one_mul, mul_comm]
    exact_mod_cast h
  have hmiddle : den = 2 * (num % den) → ((num % den : Nat) : ℚ) / den = 1 / 2 := by
    intro h
    rw [div_eq_div_iff hpos.ne' two_ne_zero, one_mul, mul_comm]
    exact_mod_cast h.symm
  rw [hquotient]
  unfold roundHalfEven
  dsimp only
  generalize ((num % den : Nat) : ℚ) / den = rest at *
  split
  · rename_i h
    have hhalf := hbelow h
    rw [add_sub_cancel_left, abs_of_nonneg hrest]
    exact ⟨hhalf.le, fun htie ↦ absurd htie hhalf.ne⟩
  · split
    · rename_i h
      have hhalf := habove h
      rw [Nat.cast_add_one, add_sub_add_left_eq_sub, abs_sub_comm, abs_of_pos (sub_pos.mpr hless)]
      exact ⟨by linarith, fun htie ↦ by linarith⟩
    · have hhalf := hmiddle (by omega)
      refine ⟨?_, fun _ ↦ by omega⟩
      rcases Nat.mod_two_eq_zero_or_one (num / den) with hzero | hone
      · rw [hzero, hhalf, Nat.add_zero, add_sub_cancel_left]
        norm_num
      · rw [hone, hhalf, Nat.cast_add, add_sub_add_left_eq_sub]
        norm_num

/-- A natural number within a half is the nearest one, and only a half makes a tie. -/
theorem nearest_natural {number : ℚ} {m k : Nat} (hm : |number - m| ≤ 1 / 2) (hne : k ≠ m) :
    |number - m| ≤ |number - k| ∧
      (|number - k| = |number - m| → |number - m| = 1 / 2 ∧ k % 2 ≠ m % 2) := by
  have hapart : (1 : ℚ) ≤ |(k : ℚ) - m| := by
    have hint : 1 ≤ |(k : ℤ) - m| := Int.one_le_abs (by omega)
    exact_mod_cast hint
  have htriangle : |(k : ℚ) - m| ≤ |number - k| + |number - m| := by
    rw [abs_sub_comm number k]
    exact abs_sub_le _ _ _
  refine ⟨by linarith, fun h ↦ ⟨by linarith, ?_⟩⟩
  have hone : |(k : ℤ) - m| ≤ 1 := by
    have hone : |(k : ℚ) - m| ≤ 1 := by linarith
    exact_mod_cast hone
  obtain ⟨hlower, hupper⟩ := abs_le.mp hone
  omega

/-- From the middle above an odd number, rounding goes up. -/
theorem lt_roundHalfEven_of_odd {num den k : Nat} (hden : 0 < den) (hodd : k % 2 = 1)
    (h : (2 * k + 1) * den ≤ 2 * num) : k < roundHalfEven num den := by
  have hdivision : den * (num / den) + num % den = num := Nat.div_add_mod num den
  have hquotient : k ≤ num / den := by
    refine (Nat.le_div_iff_mul_le hden).mpr ?_
    rw [Nat.add_mul, Nat.mul_assoc] at h
    omega
  unfold roundHalfEven
  dsimp only
  rcases hquotient.lt_or_eq with hless | hequal
  · split
    · exact hless
    · split <;> omega
  · rw [← hequal, Nat.mul_comm] at hdivision
    rw [Nat.add_mul, Nat.mul_assoc] at h
    split
    · omega
    · split <;> omega

/-! ## The other doubles -/

/-- Every double is a multiple of a unit or less than the numbers of full length. -/
theorem Finite.multiple_or_lt (y : Finite) (exponent : Int) :
    (∃ k : Nat, y.magnitude = k * 2 ^ exponent ∧ (y.mantissa % 2 = 0 → k % 2 = 0)) ∨
      leastExponent < exponent ∧ y.magnitude < 2 ^ 52 * 2 ^ exponent := by
  obtain ⟨hmantissa, hleast, -, -⟩ := y.canonical
  rcases le_or_gt exponent y.exponent with hle | hlt
  · refine .inl ⟨y.mantissa * 2 ^ (y.exponent - exponent).toNat, ?_, fun heven ↦ ?_⟩
    · have hexponent : (((y.exponent - exponent).toNat : ℕ) : ℤ) + exponent = y.exponent := by
        omega
      unfold magnitude
      push_cast
      rw [mul_assoc, two_pow_mul_two_zpow, hexponent]
    · rw [Nat.mul_mod, heven, Nat.zero_mul, Nat.zero_mod]
  · refine .inr ⟨hleast.trans_lt hlt, ?_⟩
    have hpower : (2 : ℚ) ^ (y.exponent + 1) ≤ 2 ^ exponent := zpow_le_zpow_right₀ one_le_two hlt
    calc
      y.magnitude < 2 ^ 53 * 2 ^ y.exponent := by
        refine mul_lt_mul_of_pos_right ?_ (zpow_pos two_pos _)
        exact_mod_cast hmantissa
      _ = 2 ^ 52 * 2 ^ (y.exponent + 1) := by
        rw [two_pow_mul_two_zpow, two_pow_mul_two_zpow]
        congr 1
        push_cast
        omega
      _ ≤ 2 ^ 52 * 2 ^ exponent := mul_le_mul_of_nonneg_left hpower (pow_pos two_pos _).le

theorem Finite.magnitude_zero (negative : Bool) :
    Finite.magnitude ⟨negative, 0, leastExponent, by decide⟩ = 0 :=
  magnitude_eq_zero_iff.mpr rfl

theorem Finite.magnitude_nonneg (x : Finite) : 0 ≤ x.magnitude :=
  mul_nonneg (Nat.cast_nonneg _) (zpow_pos two_pos _).le

section

variable {num den : Nat}

/-- The multiple of the unit that a quotient is rounded to is within half a unit. -/
theorem abs_sub_quotientMantissa (num : Nat) (hden : den ≠ 0) :
    |(num : ℚ) / den / 2 ^ quotientExponent num den - quotientMantissa num den| ≤ 1 / 2 ∧
      (|(num : ℚ) / den / 2 ^ quotientExponent num den - quotientMantissa num den| = 1 / 2 →
        quotientMantissa num den % 2 = 0) := by
  rw [← scale_quotient]
  exact abs_sub_roundHalfEven _ (scale_den_pos hden _)

/-- No double is nearer to a quotient than the rounded one, and the mantissa of one that is as near
is odd. -/
theorem nearest_of_magnitude (hnum : num ≠ 0) (hden : den ≠ 0) {x : Finite}
    (hx : x.magnitude = quotientMantissa num den * 2 ^ quotientExponent num den) (y : Finite) :
    |(num : ℚ) / den - x.magnitude| ≤ |(num : ℚ) / den - y.magnitude| ∧
      (|(num : ℚ) / den - y.magnitude| = |(num : ℚ) / den - x.magnitude| →
        y.magnitude ≠ x.magnitude → quotientMantissa num den % 2 = 0 ∧ y.mantissa % 2 = 1) := by
  obtain ⟨hhalf, heven⟩ := abs_sub_quotientMantissa num hden
  have hpower : (0 : ℚ) < 2 ^ quotientExponent num den := zpow_pos two_pos _
  have hscale (k : Nat) : |(num : ℚ) / den - k * 2 ^ quotientExponent num den| =
      |(num : ℚ) / den / 2 ^ quotientExponent num den - k| * 2 ^ quotientExponent num den := by
    rw [← abs_of_pos hpower, ← abs_mul, abs_of_pos hpower, sub_mul, div_mul_cancel₀ _ hpower.ne']
  rw [hx, hscale]
  rcases y.multiple_or_lt (quotientExponent num den) with ⟨k, hk, hodd⟩ | ⟨hleast, hbelow⟩
  · rw [hk, hscale]
    by_cases hne : k = quotientMantissa num den
    · rw [hne]
      exact ⟨le_rfl, fun _ h ↦ absurd rfl h⟩
    · obtain ⟨hle, htie⟩ := nearest_natural hhalf hne
      refine ⟨mul_le_mul_of_nonneg_right hle hpower.le, fun h _ ↦ ?_⟩
      obtain ⟨hmiddle, hparity⟩ := htie (mul_right_cancel₀ hpower.ne' h)
      have hmantissa := heven hmiddle
      exact ⟨hmantissa, by omega⟩
  · -- The power of two in between is nearer than the other double, and a multiple of the unit.
    have hlower := quotientExponent_le hnum hden hleast
    have hbetween : |(num : ℚ) / den - (2 ^ 52 : Nat) * 2 ^ quotientExponent num den| <
        |(num : ℚ) / den - y.magnitude| := by
      push_cast
      rw [abs_of_nonneg (by linarith), abs_of_pos (by linarith)]
      linarith
    have hnearer : |(num : ℚ) / den / 2 ^ quotientExponent num den - quotientMantissa num den| *
        2 ^ quotientExponent num den ≤
          |(num : ℚ) / den - (2 ^ 52 : Nat) * 2 ^ quotientExponent num den| := by
      rw [hscale]
      refine mul_le_mul_of_nonneg_right ?_ hpower.le
      by_cases hne : 2 ^ 52 = quotientMantissa num den
      · rw [hne]
      · exact (nearest_natural hhalf hne).1
    have hless := hnearer.trans_lt hbetween
    exact ⟨hless.le, fun h _ ↦ absurd h.symm hless.ne⟩

/-! ## The rounded double -/

/-- Below the overflow, a quotient is rounded to the multiple of its unit. -/
theorem finite_ofQuotient (negative : Bool) (hnum : num ≠ 0) (hden : den ≠ 0)
    (h : (num : ℚ) / den < overflow) : ∃ x, ofQuotient negative num den = .finite x ∧
      x.negative = negative ∧
      x.magnitude = quotientMantissa num den * 2 ^ quotientExponent num den ∧
      (quotientMantissa num den % 2 = 0 → x.mantissa % 2 = 0) := by
  have hfinite : (ofQuotient negative num den).isFinite = true := isFinite_ofQuotient hden h
  cases hdouble : ofQuotient negative num den with
  | nan =>
    rw [hdouble] at hfinite
    cases hfinite
  | infinite sign =>
    rw [hdouble] at hfinite
    cases hfinite
  | finite x =>
    refine ⟨x, rfl, ?_⟩
    rw [ofQuotient_of_ne_zero negative hnum] at hdouble
    split at hdouble
    · rename_i hfull
      obtain ⟨hsign, hmantissa, hexponent⟩ := finite_of_pack hdouble
      refine ⟨hsign, ?_, fun _ ↦ by rw [hmantissa]; rfl⟩
      have hpower : (2 : ℚ) ^ (53 - 1) * 2 ^ (quotientExponent num den + 1) =
          2 ^ 53 * 2 ^ quotientExponent num den := by
        rw [two_pow_mul_two_zpow, two_pow_mul_two_zpow]
        congr 1
        push_cast
        omega
      rw [Finite.magnitude, hmantissa, hexponent, hfull]
      exact_mod_cast hpower
    · obtain ⟨hsign, hmantissa, hexponent⟩ := finite_of_pack hdouble
      refine ⟨hsign, ?_, fun heven ↦ by rw [hmantissa, heven]⟩
      rw [Finite.magnitude, hmantissa, hexponent]

theorem overflow_pos : 0 < overflow :=
  mul_pos (by norm_num) two_zpow_970_pos

/-- There is no double of so large an exponent. -/
theorem pack_of_large (negative : Bool) (mantissa : Nat) {exponent : Int}
    (h : greatestExponent < exponent) : pack negative mantissa exponent = .infinite negative :=
  dif_neg fun hcanonical ↦ h.not_ge hcanonical.2.2.1

/-- From the overflow on, the exponent of a quotient is too large, or rounding makes it so. -/
theorem infinite_ofQuotient (negative : Bool) (hden : den ≠ 0) (h : overflow ≤ (num : ℚ) / den) :
    ofQuotient negative num den = .infinite negative := by
  have hnum : num ≠ 0 := by
    rintro rfl
    rw [Nat.cast_zero, zero_div] at h
    exact h.not_gt overflow_pos
  have hlarge : greatestExponent ≤ quotientExponent num den := by
    have hlower : (2 : ℚ) ^ 52 * 2 ^ (971 : ℤ) ≤ overflow := by
      have hsplit : (2 : ℚ) ^ (971 : ℤ) = 2 ^ 1 * 2 ^ (970 : ℤ) := (two_pow_mul_two_zpow 1 970).symm
      rw [hsplit, ← mul_assoc]
      exact mul_le_mul_of_nonneg_right (by norm_num) two_zpow_970_pos.le
    exact exponent_le_of_bounds (hlower.trans h) (lt_quotientExponent hnum hden)
  rw [ofQuotient_of_ne_zero negative hnum]
  split
  · exact pack_of_large negative _ (by omega)
  · rename_i hfull
    rcases hlarge.lt_or_eq with hless | hequal
    · exact pack_of_large negative _ hless
    · have hmiddle : 2 ^ 53 - 1 < quotientMantissa num den := by
        refine lt_roundHalfEven_of_odd (scale_den_pos hden _) (by decide) ?_
        have hsplit : (2 : ℚ) ^ greatestExponent = 2 ^ 1 * 2 ^ (970 : ℤ) :=
          (two_pow_mul_two_zpow 1 970).symm
        rw [le_scale_iff num hden, ← hequal, hsplit]
        unfold overflow at h
        generalize (2 : ℚ) ^ (970 : ℤ) = unit at *
        norm_num at h ⊢
        linarith
      have hle := quotientMantissa_le hnum hden
      exact absurd (le_antisymm hle hmiddle) hfull

end

/-! ## Signs -/

/-- Numbers of one sign are as far apart as their magnitudes. -/
theorem abs_sub_signedNumber (negative : Bool) (a b : ℚ) :
    |signedNumber negative a - signedNumber negative b| = |a - b| := by
  cases negative with
  | true => rw [signedNumber, signedNumber, if_pos rfl, if_pos rfl, neg_sub_neg, abs_sub_comm]
  | false => rfl

/-- Numbers of two signs are apart by the sum of their magnitudes. -/
theorem abs_sub_signedNumber_of_ne {negative sign : Bool} (hne : sign ≠ negative) {a b : ℚ}
    (ha : 0 ≤ a) (hb : 0 ≤ b) : |signedNumber negative a - signedNumber sign b| = a + b := by
  have hsum : 0 ≤ a + b := add_nonneg ha hb
  unfold signedNumber
  cases negative with
  | true =>
    obtain rfl := Bool.eq_false_iff.mpr hne
    rw [if_pos rfl, if_neg Bool.false_ne_true, ← neg_add', abs_neg, abs_of_nonneg hsum]
  | false =>
    obtain rfl := (Bool.not_eq_false sign).mp hne
    rw [if_pos rfl, if_neg Bool.false_ne_true, sub_neg_eq_add, abs_of_nonneg hsum]

/-- A number of the other sign is not nearer. -/
theorem le_abs_sub_signedNumber (negative sign : Bool) {a b : ℚ} (ha : 0 ≤ a) (hb : 0 ≤ b) :
    |a - b| ≤ |signedNumber negative a - signedNumber sign b| := by
  by_cases hsign : sign = negative
  · rw [hsign, abs_sub_signedNumber]
  · rw [abs_sub_signedNumber_of_ne hsign ha hb]
    exact abs_le.mpr ⟨by linarith, by linarith⟩

theorem signedNumber_zero (negative : Bool) : signedNumber negative 0 = 0 := by
  rw [signedNumber, neg_zero, ite_self]

/-- Among doubles of the sign, it is enough to compare magnitudes. -/
theorem Finite.isNearest_of_magnitude {x : Finite} {magnitude : ℚ} (hnonneg : 0 ≤ magnitude)
    (hbelow : magnitude < overflow)
    (hnearest : ∀ y : Finite, |magnitude - x.magnitude| ≤ |magnitude - y.magnitude| ∧
      (|magnitude - y.magnitude| = |magnitude - x.magnitude| → y.magnitude ≠ x.magnitude →
        x.mantissa % 2 = 0)) :
    x.IsNearest x.negative magnitude := by
  have hself : |signedNumber x.negative magnitude - x.number| = |magnitude - x.magnitude| :=
    abs_sub_signedNumber _ _ _
  have hother (y : Finite) :
      |magnitude - y.magnitude| ≤ |signedNumber x.negative magnitude - y.number| :=
    le_abs_sub_signedNumber _ _ hnonneg y.magnitude_nonneg
  refine ⟨rfl, hbelow, fun y ↦ ?_, fun y htie hne ↦ ?_⟩
  · rw [hself]
    exact (hnearest y).1.trans (hother y)
  · rw [hself] at htie
    have hequal : |magnitude - y.magnitude| = |magnitude - x.magnitude| :=
      le_antisymm ((hother y).trans_eq htie) (hnearest y).1
    refine (hnearest y).2 hequal fun hmagnitude ↦ ?_
    -- The double with the other sign would be as near only if both were zero.
    have hsign : y.negative ≠ x.negative := by
      intro hsign
      rw [number, number, hsign, hmagnitude] at hne
      exact hne rfl
    have hpositive : 0 < x.magnitude := by
      refine x.magnitude_nonneg.lt_of_ne' fun hzero ↦ ?_
      rw [number, number, hmagnitude, hzero, signedNumber_zero, signedNumber_zero] at hne
      exact hne rfl
    have hzero : magnitude = 0 := by
      rw [number, abs_sub_signedNumber_of_ne hsign hnonneg y.magnitude_nonneg, hmagnitude] at htie
      rcases abs_cases (magnitude - x.magnitude) with ⟨habs, -⟩ | ⟨habs, -⟩
      · linarith
      · linarith
    have hnone := (hnearest ⟨false, 0, leastExponent, by decide⟩).1
    rw [hzero, magnitude_zero, zero_sub, abs_neg, sub_zero, abs_zero, abs_of_pos hpositive] at hnone
    exact hnone.not_gt hpositive

/-! ## Rounding -/

theorem isNearest_zero (negative : Bool) : IsNearest negative 0 (zero negative) := by
  refine Finite.isNearest_of_magnitude le_rfl overflow_pos fun y ↦ ?_
  rw [Finite.magnitude_zero, sub_zero, abs_zero]
  exact ⟨abs_nonneg _, fun _ _ ↦ rfl⟩

/-- A quotient is rounded to the nearest double. -/
theorem isNearest_ofQuotient (negative : Bool) (num : Nat) {den : Nat} (hden : den ≠ 0) :
    IsNearest negative (num / den) (ofQuotient negative num den) := by
  by_cases hnum : num = 0
  · rw [ofQuotient, if_pos hnum, hnum, Nat.cast_zero, zero_div]
    exact isNearest_zero negative
  · rcases lt_or_ge ((num : ℚ) / den) overflow with hbelow | hover
    · obtain ⟨x, hx, rfl, hmagnitude, heven⟩ := finite_ofQuotient negative hnum hden hbelow
      rw [hx]
      refine Finite.isNearest_of_magnitude (div_nonneg (Nat.cast_nonneg _) (Nat.cast_nonneg _))
        hbelow fun y ↦ ?_
      obtain ⟨hle, htie⟩ := nearest_of_magnitude hnum hden hmagnitude y
      exact ⟨hle, fun hequal hne ↦ heven (htie hequal hne).1⟩
    · rw [infinite_ofQuotient negative hden hover]
      exact ⟨rfl, hover⟩

/-- A decimal is rounded to the nearest double. -/
theorem isNearest_ofDecimal (negative : Bool) (digits : Nat) (exponent : Int) :
    IsNearest negative (digits * 10 ^ exponent) (ofDecimal negative digits exponent) := by
  rw [ofDecimal_eq_ofQuotient, ← decimal_quotient]
  exact isNearest_ofQuotient negative _ (pow_ten_ne_zero _)

/-! ## The nearest double is one -/

theorem Finite.quotient_den_pos (x : Finite) : 0 < x.quotient.2 :=
  Nat.pow_pos Nat.two_pos

theorem Finite.quotient_eq_magnitude (x : Finite) :
    (x.quotient.1 : ℚ) / x.quotient.2 = x.magnitude := by
  unfold quotient magnitude
  obtain ⟨n, hn | hn⟩ := Int.eq_nat_or_neg x.exponent
  · simp [hn]
  · simp [hn, div_eq_mul_inv]

/-- A finite double is determined by its sign and its magnitude. -/
theorem Finite.eq_of_magnitude {x y : Finite} (hsign : x.negative = y.negative)
    (hmagnitude : x.magnitude = y.magnitude) : x = y := by
  have hx := ofQuotient_of_magnitude x.quotient_den_pos.ne' x.quotient_eq_magnitude
  have hy := ofQuotient_of_magnitude x.quotient_den_pos.ne'
    (x.quotient_eq_magnitude.trans hmagnitude)
  rw [← hsign, hx] at hy
  exact Double.finite.inj hy

/-- Of two doubles that are as near, one has an odd mantissa. -/
theorem Finite.IsNearest.eq_ofQuotient {negative : Bool} {num den : Nat} (hden : den ≠ 0)
    {x : Finite} (h : x.IsNearest negative (num / den)) :
    finite x = ofQuotient negative num den := by
  obtain rfl := h.sign
  by_cases hnum : num = 0
  · have hzero := h.nearest ⟨x.negative, 0, leastExponent, by decide⟩
    rw [number, number, abs_sub_signedNumber, abs_sub_signedNumber, magnitude_zero, hnum,
      Nat.cast_zero, zero_div, zero_sub, abs_neg, sub_zero, abs_zero] at hzero
    rw [ofQuotient, if_pos hnum]
    exact (zero_eq_finite (magnitude_eq_zero_iff.mp (abs_nonpos_iff.mp hzero))).symm
  · obtain ⟨y, hy, hsign, hmagnitude, -⟩ := finite_ofQuotient x.negative hnum hden h.below
    rw [hy]
    refine congrArg finite (eq_of_magnitude hsign.symm (not_not.mp fun hne ↦ ?_))
    obtain ⟨hle, htie⟩ := nearest_of_magnitude hnum hden hmagnitude x
    have hnearest := h.nearest y
    have heven := h.even y
    rw [number, number, hsign, abs_sub_signedNumber, abs_sub_signedNumber] at hnearest heven
    have hequal := le_antisymm hnearest hle
    obtain ⟨-, hodd⟩ := htie hequal hne
    have hnumber : signedNumber x.negative y.magnitude ≠ signedNumber x.negative x.magnitude := by
      intro hnumber
      have hsame := abs_sub_signedNumber x.negative y.magnitude x.magnitude
      rw [hnumber, sub_self, abs_zero] at hsame
      exact hne (sub_eq_zero.mp (abs_eq_zero.mp hsame.symm)).symm
    have hmantissa := heven hequal.symm hnumber
    omega

/-- There is only one nearest double, and rounding finds it. -/
theorem IsNearest.eq_ofQuotient {negative : Bool} {num den : Nat} (hden : den ≠ 0) {x : Double}
    (h : IsNearest negative (num / den) x) : x = ofQuotient negative num den := by
  cases x with
  | nan => exact h.elim
  | infinite sign =>
    obtain ⟨rfl, hover⟩ := h
    exact (infinite_ofQuotient sign hden hover).symm
  | finite x => exact Finite.IsNearest.eq_ofQuotient hden h

/-- Only one double is nearest to a decimal. -/
theorem isNearest_iff {negative : Bool} {digits : Nat} {exponent : Int} {x : Double} :
    IsNearest negative (digits * 10 ^ exponent) x ↔ x = ofDecimal negative digits exponent := by
  constructor
  · intro h
    rw [← decimal_quotient] at h
    rw [ofDecimal_eq_ofQuotient]
    exact h.eq_ofQuotient (pow_ten_ne_zero _)
  · rintro rfl
    exact isNearest_ofDecimal negative digits exponent

/-! ## Integral doubles -/

/-- A double is an integer exactly where its number is. -/
theorem Finite.toInt?_eq_some_iff {x : Finite} {n : Int} :
    x.toInt? = some n ↔ (n : ℚ) = x.number := by
  have hpos : (0 : ℚ) < x.quotient.2 := by exact_mod_cast x.quotient_den_pos
  have hmagnitude := x.quotient_eq_magnitude
  unfold toInt? number signedNumber
  dsimp only
  constructor
  · intro h
    split at h
    · rename_i hdivides
      have hnumber : ((x.quotient.1 / x.quotient.2 : Nat) : ℚ) = x.magnitude := by
        rw [← hmagnitude]
        exact Nat.cast_div (Nat.dvd_of_mod_eq_zero hdivides) hpos.ne'
      obtain rfl := Option.some.inj h
      rw [← hnumber]
      cases x.negative with
      | true => rw [if_pos rfl, if_pos rfl, Int.cast_neg, Int.cast_natCast]
      | false => rfl
    · cases h
  · intro h
    have hnat : (n.natAbs : ℚ) = x.magnitude := by
      have habs : |(n : ℚ)| = x.magnitude := by
        rw [h]
        split
        · rw [abs_neg, abs_of_nonneg x.magnitude_nonneg]
        · rw [abs_of_nonneg x.magnitude_nonneg]
      rw [← habs, Nat.cast_natAbs, Int.cast_abs]
    have hnum : n.natAbs * x.quotient.2 = x.quotient.1 := by
      rw [← hmagnitude, eq_div_iff hpos.ne'] at hnat
      exact_mod_cast hnat
    rw [← hnum, if_pos (Nat.mul_mod_left _ _), Nat.mul_div_cancel _ x.quotient_den_pos]
    rw [← hnat] at h
    split at h
    · rename_i hnegative
      have hint : n = -(n.natAbs : Int) := by
        apply Int.cast_injective (α := ℚ)
        rw [h, Int.cast_neg, Int.cast_natCast]
      rw [if_pos hnegative, ← hint]
    · rename_i hnegative
      have hint : n = n.natAbs := Int.cast_injective (h.trans (Int.cast_natCast _).symm)
      rw [if_neg hnegative, ← hint]

/-! ## Small integers -/

/-- Integers of at most 53 binary digits are doubles, and so is the next power of two. -/
theorem exists_magnitude_eq {n : Nat} (h : n ≤ 2 ^ 53) (negative : Bool) :
    ∃ x : Finite, x.negative = negative ∧ x.magnitude = n := by
  by_cases hzero : n = 0
  · refine ⟨⟨negative, 0, leastExponent, by decide⟩, rfl, ?_⟩
    rw [Finite.magnitude_zero, hzero, Nat.cast_zero]
  · rcases h.lt_or_eq with hless | rfl
    · have hlog : n.log2 ≤ 52 := by
        have hlog := (Nat.log2_lt hzero).mpr hless
        omega
      have hlower : 2 ^ 52 ≤ n * 2 ^ (52 - n.log2) := by
        calc
          2 ^ 52 = 2 ^ n.log2 * 2 ^ (52 - n.log2) := by
            rw [← Nat.pow_add, Nat.add_sub_cancel' hlog]
          _ ≤ n * 2 ^ (52 - n.log2) := Nat.mul_le_mul_right _ (Nat.log2_self_le hzero)
      have hupper : n * 2 ^ (52 - n.log2) < 2 ^ 53 := by
        calc
          n * 2 ^ (52 - n.log2) < 2 ^ (n.log2 + 1) * 2 ^ (52 - n.log2) :=
            Nat.mul_lt_mul_of_pos_right Nat.lt_log2_self (Nat.pow_pos Nat.two_pos)
          _ = 2 ^ 53 := by
            rw [← Nat.pow_add]
            congr 1
            omega
      have hcanonical : Canonical (n * 2 ^ (52 - n.log2)) (-(52 - n.log2 : Nat)) := by
        refine ⟨hupper, ?_, ?_, .inl hlower⟩
        · unfold leastExponent
          omega
        · unfold greatestExponent
          omega
      refine ⟨⟨negative, _, _, hcanonical⟩, rfl, ?_⟩
      unfold Finite.magnitude
      push_cast
      rw [zpow_neg, zpow_natCast, mul_inv_cancel_right₀ (pow_ne_zero _ two_ne_zero)]
    · refine ⟨⟨negative, 2 ^ 52, 1, by decide⟩, rfl, ?_⟩
      unfold Finite.magnitude
      norm_num

/-- The decimal of an integer of at most 53 binary digits is rounded to that integer. -/
theorem ofDecimal_of_le {n : Nat} (h : n ≤ 2 ^ 53) (negative : Bool) :
    ∃ x : Finite, ofDecimal negative n 0 = .finite x ∧ x.number = signedNumber negative n := by
  obtain ⟨x, rfl, hmagnitude⟩ := exists_magnitude_eq h negative
  refine ⟨x, ofDecimal_of_magnitude ?_, ?_⟩
  · rw [hmagnitude, zpow_zero, mul_one]
  · rw [Finite.number, hmagnitude]

end Schematic.Double
