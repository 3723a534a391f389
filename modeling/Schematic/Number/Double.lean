/-!
# Binary floating-point numbers

A double is not a number, an infinity, or a sign with a mantissa of at most 53
bits and a binary exponent. Finite doubles are canonical: the mantissa has 53
bits unless the exponent is the least one, so each value has one representation
and equality of representations is equality of values, zero's sign apart.

Rounding takes a quotient of natural numbers to the nearest double, ties going
to the even mantissa, in exact arithmetic.
-/

namespace Schematic

namespace Double

def precision : Nat := 53
def leastExponent : Int := -1074
def greatestExponent : Int := 971

/-- The form in which the mantissa is as long as the exponent's range allows. -/
def Canonical (mantissa : Nat) (exponent : Int) : Prop :=
  mantissa < Nat.pow 2 precision ∧ leastExponent ≤ exponent ∧ exponent ≤ greatestExponent ∧
    (Nat.pow 2 (precision - 1) ≤ mantissa ∨ exponent = leastExponent)

instance (mantissa : Nat) (exponent : Int) : Decidable (Canonical mantissa exponent) := by
  unfold Canonical
  infer_instance

/-- The number `mantissa * 2 ^ exponent` with a sign. -/
structure Finite where
  negative : Bool
  mantissa : Nat
  exponent : Int
  canonical : Canonical mantissa exponent
  deriving DecidableEq

end Double

inductive Double where
  | nan
  | infinite (negative : Bool)
  | finite (value : Double.Finite)
  deriving DecidableEq

namespace Double

def zero (negative : Bool) : Double :=
  .finite ⟨negative, 0, leastExponent, by decide⟩

instance : Inhabited Double := ⟨zero false⟩

def isFinite : Double → Bool
  | .finite _ => true
  | _ => false

/-- The natural number nearest to a quotient, a tie going to the even one. -/
def roundHalfEven (num den : Nat) : Nat :=
  let quotient := num / den
  let rest := num % den
  if 2 * rest < den then quotient
  else if den < 2 * rest then quotient + 1
  else quotient + quotient % 2

/-- Numerator and denominator of `num / den / 2 ^ exponent`. -/
def scale (num den : Nat) (exponent : Int) : Nat × Nat :=
  (num * Nat.pow 2 (-exponent).toNat, den * Nat.pow 2 exponent.toNat)

/-- The exponent at which the quotient's integral part has 53 bits, or the least exponent. -/
def quotientExponent (num den : Nat) : Int :=
  let guess : Int := num.log2 - den.log2 - precision
  let (n, d) := scale num den guess
  max leastExponent (if Nat.pow 2 precision ≤ n / d then guess + 1 else guess)

/-- The double with the given mantissa and exponent; beyond the greatest double it is infinite. -/
def pack (negative : Bool) (mantissa : Nat) (exponent : Int) : Double :=
  if h : Canonical mantissa exponent then .finite ⟨negative, mantissa, exponent, h⟩
  else .infinite negative

/-- The double nearest to the quotient of two natural numbers. -/
def ofQuotient (negative : Bool) (num den : Nat) : Double :=
  if num = 0 then zero negative
  else
    let exponent := quotientExponent num den
    let (n, d) := scale num den exponent
    let mantissa := roundHalfEven n d
    if mantissa = Nat.pow 2 precision then
      pack negative (Nat.pow 2 (precision - 1)) (exponent + 1)
    else pack negative mantissa exponent

/-- Decimal exponents beyond this bound leave the range of doubles. -/
def decimalBound : Int := 400

/-- The double nearest to `digits * 10 ^ exponent`. -/
def ofDecimal (negative : Bool) (digits : Nat) (exponent : Int) : Double :=
  if digits = 0 then zero negative
  else if decimalBound < exponent then .infinite negative
  else if exponent + (digits.log2 + 1) < -decimalBound then zero negative
  else ofQuotient negative (digits * Nat.pow 10 exponent.toNat) (Nat.pow 10 (-exponent).toNat)

/-- Numerator and denominator of the absolute value. -/
def Finite.quotient (x : Finite) : Nat × Nat :=
  (x.mantissa * Nat.pow 2 x.exponent.toNat, Nat.pow 2 (-x.exponent).toNat)

/-- The integer a double is equal to, if there is one. -/
def Finite.toInt? (x : Finite) : Option Int :=
  let (num, den) := x.quotient
  if num % den = 0 then
    let magnitude : Int := (num / den : Nat)
    some (if x.negative then -magnitude else magnitude)
  else none

def toInt? : Double → Option Int
  | .finite x => x.toInt?
  | _ => none

/-- Equality of the numbers denoted: the two zeros are equal, not-a-number differs from itself. -/
def sameNumber : Double → Double → Bool
  | .nan, _ => false
  | _, .nan => false
  | .finite x, .finite y =>
    x.mantissa = y.mantissa && x.exponent = y.exponent &&
      (x.negative = y.negative || x.mantissa = 0)
  | x, y => x = y

end Double

end Schematic
