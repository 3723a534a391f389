import Schematic.Number.Double

/-!
# Arithmetic of doubles

Sums, products and quotients are the doubles nearest to the exact results, which
are quotients of integers. An exact result of zero keeps the sign that the
operands give it. Division to an integral quotient rounds down, so the remainder
has the sign of the divisor.
-/

namespace Schematic.Double

/-- The signed numerator and the denominator of a finite double. -/
def Finite.ratio (x : Finite) : Int × Nat :=
  let (num, den) := x.quotient
  (if x.negative then -(num : Int) else num, den)

/-- The double nearest to a quotient; a zero has the given sign. -/
def ofRatio (negativeZero : Bool) (num : Int) (den : Nat) : Double :=
  if num = 0 then zero negativeZero else ofQuotient (num < 0) num.natAbs den

def ofInt (n : Int) : Double :=
  ofRatio false n 1

def isNegative : Double → Bool
  | nan => false
  | infinite negative => negative
  | finite x => x.negative

def isZero : Double → Bool
  | finite x => x.mantissa = 0
  | _ => false

def negate : Double → Double
  | nan => nan
  | infinite negative => infinite !negative
  | finite x => finite { x with negative := !x.negative }

def add : Double → Double → Double
  | nan, _ | _, nan => nan
  | infinite a, infinite b => if a = b then infinite a else nan
  | infinite a, finite _ => infinite a
  | finite _, infinite b => infinite b
  | finite x, finite y =>
    let (a, b) := x.ratio
    let (c, d) := y.ratio
    ofRatio (x.negative && y.negative) (a * d + c * b) (b * d)

def subtract (x y : Double) : Double :=
  add x y.negate

def multiply : Double → Double → Double
  | nan, _ | _, nan => nan
  | infinite a, infinite b => infinite (a != b)
  | infinite a, finite y => if y.mantissa = 0 then nan else infinite (a != y.negative)
  | finite x, infinite b => if x.mantissa = 0 then nan else infinite (x.negative != b)
  | finite x, finite y =>
    let (a, b) := x.ratio
    let (c, d) := y.ratio
    ofRatio (x.negative != y.negative) (a * c) (b * d)

/-- The quotient by a divisor that is not zero. -/
def divide : Double → Double → Double
  | nan, _ | _, nan => nan
  | infinite _, infinite _ => nan
  | infinite a, finite y => infinite (a != y.negative)
  | finite x, infinite b => zero (x.negative != b)
  | finite x, finite y =>
    let (a, b) := x.ratio
    let (c, d) := y.ratio
    let num := if c < 0 then -(a * d) else a * d
    ofRatio (x.negative != y.negative) num (b * c.natAbs)

/-- The remainder of a division that rounds down, by a divisor that is not zero. -/
def remainder : Double → Double → Double
  | nan, _ | _, nan => nan
  | infinite _, _ => nan
  | finite x, infinite b =>
    if x.mantissa = 0 then zero b
    else if x.negative = b then finite x
    else infinite b
  | finite x, finite y =>
    let (a, b) := x.ratio
    let (c, d) := y.ratio
    ofRatio y.negative (Int.fmod (a * d) (c * b)) (b * d)

/-- The quotient rounded down, by a divisor that is not zero. -/
def floorDivide : Double → Double → Double
  | nan, _ | _, nan => nan
  | infinite _, _ => nan
  | finite x, infinite b =>
    if x.mantissa = 0 || x.negative = b then zero (x.negative != b) else ofInt (-1)
  | finite x, finite y =>
    let (a, b) := x.ratio
    let (c, d) := y.ratio
    ofRatio (x.negative != y.negative) (Int.fdiv (a * d) (c * b)) 1

/-- Whether a number is less than another one; not-a-number is not. -/
def less : Double → Double → Bool
  | nan, _ | _, nan => false
  | infinite a, infinite b => a && !b
  | infinite a, finite _ => a
  | finite _, infinite b => !b
  | finite x, finite y =>
    let (a, b) := x.ratio
    let (c, d) := y.ratio
    a * d < c * b

/-- The exponent up to which a power is worked out. -/
def powerBound : Nat := 10000

/-- A finite double to an integral power; beyond the bound, none is given. -/
def power? (x : Double) (exponent : Int) : Option Double :=
  match x with
  | finite x =>
    if powerBound < exponent.natAbs then none
    else
      let (a, b) := x.ratio
      let (num, den) := (Int.pow a exponent.natAbs, Nat.pow b exponent.natAbs)
      let negative := x.negative && exponent % 2 = 1
      if 0 ≤ exponent then some (ofRatio negative num den)
      else if num = 0 then none
      else some (ofRatio negative (if num < 0 then -(den : Int) else den) num.natAbs)
  | _ => none

end Schematic.Double
