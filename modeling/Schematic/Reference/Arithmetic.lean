import Schematic.Annotation.Conversion
import Schematic.Reference.Expression
import Schematic.Annotation.Object

/-!
# Arithmetic of values

Integers are exact. A double among the operands makes both doubles, a complex
number makes both complex. Division of integers gives a double, unless it rounds
down. The bitwise operators take integers alone, in two's complement, and keep
truth values. Results of a size beyond a fixed bound are not worked out.
-/

namespace Schematic

/-- A number of one of the three kinds. -/
inductive Quantity where
  | integer (n : Int)
  | real (x : Double)
  | complex (x y : Double)

namespace Value

/-- The number that a value is. -/
def quantity? (v : Value) : Option Quantity :=
  match v.plain with
  | bool b => some (.integer b.toNat)
  | int n => some (.integer n)
  | float x => some (.real x)
  | complex x y => some (.complex x y)
  | _ => Option.none

end Value

namespace Arithmetic

/-- The greatest number of bits or items that a result may have. -/
def sizeBound : Nat := 1000000

/-- The least number of bits that both integers and their signs fit in. -/
def widthFor (a b : Int) : Nat :=
  max a.natAbs.log2 b.natAbs.log2 + 2

/-- The bits of an integer in two's complement. -/
def toBits (width : Nat) (n : Int) : Nat :=
  (n % (Nat.pow 2 width : Nat)).toNat

def ofBits (width : Nat) (bits : Nat) : Int :=
  if bits < Nat.pow 2 (width - 1) then bits else (bits : Int) - (Nat.pow 2 width : Nat)

def bitwise (combine : Nat → Nat → Nat) (a b : Int) : Int :=
  let width := widthFor a b
  ofBits width (combine (toBits width a) (toBits width b))

/-- A double that an operation on integers led to; they have no infinite results. -/
def finiteOr (message : String) (x : Double) : Except Failure Value :=
  if x.isFinite then .ok (.float x) else .error (.overflow message)

def zeroPower : Failure :=
  .zeroDivision "0.0 cannot be raised to a negative power"

def integerPower (a b : Int) : Option (Except Failure Value) :=
  if 0 ≤ b then
    if sizeBound < (a.natAbs.log2 + 1) * b.natAbs then some (.error .unbounded)
    else some (.ok (.int (Int.pow a b.toNat)))
  else if a = 0 then some (.error zeroPower)
  else ((Double.ofInt a).power? b).map fun x => .ok (.float x)

def shiftedLeft (a b : Int) : Except Failure Value :=
  if b < 0 then .error .unacceptable
  else if sizeBound < b.toNat then .error .unbounded
  else .ok (.int (a * (Nat.pow 2 b.toNat : Nat)))

def shiftedRight (a b : Int) : Except Failure Value :=
  if b < 0 then .error .unacceptable
  else if a.natAbs.log2 < b.toNat then .ok (.int (if a < 0 then -1 else 0))
  else .ok (.int (Int.fdiv a (Nat.pow 2 b.toNat : Nat)))

/-- An operation on integers, if there is one. -/
def onIntegers (operator : BinaryOperator) (a b : Int) : Option (Except Failure Value) :=
  match operator with
  | .add => some (.ok (.int (a + b)))
  | .subtract => some (.ok (.int (a - b)))
  | .multiply => some (.ok (.int (a * b)))
  | .divide =>
    some (if b = 0 then .error (.zeroDivision "division by zero")
      else finiteOr "integer division result too large for a float"
        (Double.ofRatio false (if b < 0 then -a else a) b.natAbs))
  | .floorDivide =>
    some (if b = 0 then .error (.zeroDivision "integer division or modulo by zero")
      else .ok (.int (Int.fdiv a b)))
  | .remainder =>
    some (if b = 0 then .error (.zeroDivision "integer modulo by zero")
      else .ok (.int (Int.fmod a b)))
  | .power => integerPower a b
  | .shiftLeft => some (shiftedLeft a b)
  | .shiftRight => some (shiftedRight a b)
  | .bitAnd => some (.ok (.int (bitwise Nat.land a b)))
  | .bitXor => some (.ok (.int (bitwise Nat.xor a b)))
  | .bitOr => some (.ok (.int (bitwise Nat.lor a b)))
  | .matrixMultiply => none

/-- The result of a division, unless the divisor is zero. -/
def divided (y : Double) (message : String) (result : Double) : Except Failure Value :=
  if y.isZero then .error (.zeroDivision message) else .ok (.float result)

def realPower (x y : Double) : Option (Except Failure Value) :=
  if x.isZero && y.isNegative && !y.isZero then some (.error zeroPower)
  else y.toInt?.bind fun n => (x.power? n).map fun power =>
    if power.isFinite then .ok (.float power)
    else .error (.overflow "(34, 'Numerical result out of range')")

/-- An operation on doubles, if there is one. -/
def onReals (operator : BinaryOperator) (x y : Double) : Option (Except Failure Value) :=
  match operator with
  | .add => some (.ok (.float (x.add y)))
  | .subtract => some (.ok (.float (x.subtract y)))
  | .multiply => some (.ok (.float (x.multiply y)))
  | .divide => some (divided y "float division by zero" (x.divide y))
  | .floorDivide => some (divided y "float floor division by zero" (x.floorDivide y))
  | .remainder => some (divided y "float modulo" (x.remainder y))
  | .power => realPower x y
  | _ => none

/-- The quotient of complex numbers, which divides by the greater part of the divisor. -/
def complexQuotient (a b c d : Double) : Except Failure Value :=
  let absolute (x : Double) : Double := if x.isNegative then x.negate else x
  if c.isZero && d.isZero then .error (.zeroDivision "complex division by zero")
  else if (absolute c).less (absolute d) then
    let ratio := c.divide d
    let size := (c.multiply ratio).add d
    .ok (.complex (((a.multiply ratio).add b).divide size)
      (((b.multiply ratio).subtract a).divide size))
  else
    let ratio := d.divide c
    let size := c.add (d.multiply ratio)
    .ok (.complex ((a.add (b.multiply ratio)).divide size)
      ((b.subtract (a.multiply ratio)).divide size))

/-- An operation on complex numbers, if there is one. -/
def onComplex (operator : BinaryOperator) (a b c d : Double) : Option (Except Failure Value) :=
  match operator with
  | .add => some (.ok (.complex (a.add c) (b.add d)))
  | .subtract => some (.ok (.complex (a.subtract c) (b.subtract d)))
  | .multiply =>
    some (.ok (.complex ((a.multiply c).subtract (b.multiply d))
      ((a.multiply d).add (b.multiply c))))
  | .divide => some (complexQuotient a b c d)
  | _ => none

/-- The parts of a number as a complex one; an integer beyond the doubles has none. -/
def parts : Quantity → Except Failure (Double × Double)
  | .integer n => (Conversion.realOfInt n).map (·, .zero false)
  | .real x => .ok (x, .zero false)
  | .complex x y => .ok (x, y)

/-- An operation on numbers, if there is one. -/
def onQuantities (operator : BinaryOperator) (a b : Quantity) : Option (Except Failure Value) :=
  match a, b with
  | .integer a, .integer b => onIntegers operator a b
  | a, b =>
    match parts a, parts b with
    | .ok (x, x'), .ok (y, y') =>
      match a, b with
      | .complex .., _ | _, .complex .. => onComplex operator x x' y y'
      | _, _ => onReals operator x y
    | .error failure, _ | _, .error failure => some (.error failure)

def isBitwise : BinaryOperator → Bool
  | .bitAnd | .bitXor | .bitOr => true
  | _ => false

/-- An operation on values that are numbers; bitwise operators keep truth values. -/
def onValues (operator : BinaryOperator) (a b : Value) : Option (Except Failure Value) := do
  let result ← onQuantities operator (← a.quantity?) (← b.quantity?)
  match a, b, result with
  | .bool _, .bool _, .ok (.int n) =>
    if isBitwise operator then some (.ok (.bool (n ≠ 0))) else some result
  | _, _, result => some result

/-- A sign before a number. -/
def signed (operator : UnaryOperator) (a : Quantity) : Option Value :=
  match operator, a with
  | .negate, .integer n => some (.int (-n))
  | .negate, .real x => some (.float x.negate)
  | .negate, .complex x y => some (.complex x.negate y.negate)
  | .affirm, .integer n => some (.int n)
  | .affirm, .real x => some (.float x)
  | .affirm, .complex x y => some (.complex x y)
  | .invert, .integer n => some (.int (-n - 1))
  | _, _ => none

/-- Whether a number is less than another one; complex numbers have no order. -/
def less? : Quantity → Quantity → Option Bool
  | .integer a, .integer b => some (a < b)
  | .integer a, .real y => some ((Double.ofInt a).less y)
  | .real x, .integer b => some (x.less (.ofInt b))
  | .real x, .real y => some (x.less y)
  | _, _ => none

end Arithmetic

end Schematic
