import Schematic.Number.Double

/-!
# The shortest decimal of a double

Among the decimals that round to a given double, the ones with the fewest digits
are the shortest, and the nearest of these is chosen. For each count of digits
only the two neighbours of the double on the decimal grid of that count can do,
so each is tried in exact arithmetic; seventeen digits always suffice, and the
exact expansion stands behind them.
-/

namespace Schematic.Double

/-- A decimal numeral: `digits * 10 ^ exponent`. -/
structure Decimal where
  digits : Nat
  exponent : Int
  deriving DecidableEq, Repr

namespace Decimal

/-- The same number without trailing zero digits, as far as the given count of steps goes. -/
def trimZeros : Nat → Decimal → Decimal
  | 0, x => x
  | steps + 1, x =>
    if x.digits ≠ 0 ∧ x.digits % 10 = 0 then trimZeros steps ⟨x.digits / 10, x.exponent + 1⟩ else x

end Decimal

/-- The number of decimal digits of a natural number; zero has none. -/
def digitCount (n : Nat) : Nat :=
  if n = 0 then 0 else (Nat.toDigits 10 n).length

/-- The decimal exponent of the leading digit of a positive quotient. -/
def leadingExponent (num den : Nat) : Int :=
  if den ≤ num then (digitCount (num / den) : Int) - 1
  else -(digitCount ((den + num - 1) / num - 1) : Int)

/-- Numerator and denominator of `num / den / 10 ^ exponent`. -/
def scaleDecimal (num den : Nat) (exponent : Int) : Nat × Nat :=
  (num * Nat.pow 10 (-exponent).toNat, den * Nat.pow 10 exponent.toNat)

/-- The grid neighbour of `count` digits that reads back as the given double, the nearer of two. -/
def decimalOfCount? (x : Finite) (count : Nat) : Option Decimal :=
  let (num, den) := x.quotient
  let exponent := leadingExponent num den - count + 1
  let (n, d) := scaleDecimal num den exponent
  let below := n / d
  let readsBack (digits : Nat) : Bool := ofDecimal x.negative digits exponent = .finite x
  let chosen? : Option Nat :=
    match readsBack below, readsBack (below + 1) with
    | true, true =>
      let rest := n % d
      if 2 * rest < d then some below
      else if d < 2 * rest then some (below + 1)
      else some (below + below % 2)
    | true, false => some below
    | false, true => some (below + 1)
    | false, false => none
  chosen?.map fun digits => ⟨digits, exponent⟩

/-- Every digit of the double's value. -/
def exactDecimal (x : Finite) : Decimal :=
  ⟨x.mantissa * Nat.pow 2 x.exponent.toNat * Nat.pow 5 (-x.exponent).toNat,
    -((-x.exponent).toNat : Int)⟩

/-- The shortest decimal that reads back, without trailing zeros. -/
def shortest (x : Finite) : Decimal :=
  let found := (List.range' 1 17).findSome? (decimalOfCount? x)
  let decimal := found.getD (exactDecimal x)
  decimal.trimZeros (digitCount decimal.digits)

end Schematic.Double
