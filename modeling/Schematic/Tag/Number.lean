import Schematic.Error
import Schematic.Json.Basic
import Schematic.Json.Reader
import Schematic.Text.Blank
import Schematic.Text.DecimalDigit

/-!
# The number of a tag

A numeric tag takes the longest numeral at the front of its text, so that `10px`
is ten; blanks before the numeral and anything after it do not count. Digits may
be decimal digits of any script. A numeral with fraction and exponent stands for
the nearest double, as an integer where that double is integral; a numeral beyond
the range of doubles is no usable number. A count is an integer and takes digits
only, up to the limit of convertible integers.
-/

namespace Schematic.Tag

open Text

/-- The parts of a numeral as they are written. -/
structure Numeral where
  negative : Bool
  whole : List Char
  fraction : List Char
  exponentNegative : Bool
  exponent : List Char
  deriving DecidableEq, Repr

namespace Numeral

/-- The sign at the front, if there is one, and what follows it. -/
def takeSign : List Char → Bool × List Char
  | '-' :: rest => (true, rest)
  | '+' :: rest => (false, rest)
  | cs => (false, cs)

/-- The digits after a point at the front, and what follows them. -/
def takeFraction : List Char → List Char × List Char
  | '.' :: rest => (rest.takeWhile isDecimalDigit, rest.dropWhile isDecimalDigit)
  | cs => ([], cs)

/-- The sign and digits of an exponent at the front; without digits there is no exponent. -/
def takeExponent : List Char → Bool × List Char
  | c :: rest =>
    if c = 'e' ∨ c = 'E' then
      let (negative, rest) := takeSign rest
      (negative, rest.takeWhile isDecimalDigit)
    else (false, [])
  | [] => (false, [])

/-- The longest numeral at the front of a text, after blanks. -/
def read? (cs : List Char) : Option Numeral :=
  let (negative, rest) := takeSign (trimLeft cs)
  let whole := rest.takeWhile isDecimalDigit
  let (fraction, rest) := takeFraction (rest.dropWhile isDecimalDigit)
  if whole.isEmpty && fraction.isEmpty then none
  else
    let (exponentNegative, exponent) := takeExponent rest
    some ⟨negative, whole, fraction, exponentNegative, exponent⟩

/-- The double nearest to the number written. -/
def toDouble (numeral : Numeral) : Double :=
  Double.ofDecimal numeral.negative (digitsValue (numeral.whole ++ numeral.fraction))
    (Json.Reader.signedValue numeral.exponentNegative (digitsValue numeral.exponent) -
      numeral.fraction.length)

end Numeral

/-- A double as a JSON number: an integer where it is integral, nothing where it is not finite. -/
def numberOfDouble? (x : Double) : Option Json :=
  if x.isFinite then
    some (match x.toInt? with
      | some n => .int n
      | none => .float x)
  else none

/-- The number at the front of a text. -/
def number? (text : String) : Option Json :=
  (Numeral.read? text.toList).bind fun numeral => numberOfDouble? numeral.toDouble

/-- The sign and digits of the integer at the front of a text, after blanks. -/
def countDigits? (cs : List Char) : Option (Bool × List Char) :=
  let (negative, rest) := Numeral.takeSign (trimLeft cs)
  let digits := rest.takeWhile isDecimalDigit
  if digits.isEmpty then none else some (negative, digits)

/-- The integer at the front of a text, if there is one. -/
def count? (text : String) : Except Failure (Option Int) :=
  match countDigits? text.toList with
  | none => .ok none
  | some (negative, digits) =>
    if Json.integerDigitLimit < digits.length then .error .overlongInteger
    else .ok (some (Json.Reader.signedValue negative (digitsValue digits)))

end Schematic.Tag
