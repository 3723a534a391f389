import Schematic.Number.Shortest

/-!
# The written form of a double

The decisions of the format are one record: which leading exponents are written
positionally, how many digits an exponent has at least, and the words for what
is not finite. A positional number always shows a fractional part.
-/

namespace Schematic.Double

structure Layout where
  /-- The least leading exponent written positionally. -/
  leastPositional : Int
  /-- The first leading exponent written scientifically again. -/
  firstScientific : Int
  /-- The least count of exponent digits. -/
  exponentDigits : Nat
  infinity : String
  notANumber : String

/-- Numbers of the schema text: positional from `1e-4` up to below `1e16`. -/
def Layout.document : Layout := ⟨-4, 16, 2, "Infinity", "NaN"⟩

/-- The same numbers where the infinities are written as words of the annotation language. -/
def Layout.literal : Layout := ⟨-4, 16, 2, "inf", "nan"⟩

namespace Layout

def pointed (whole fraction : List Char) : List Char :=
  whole ++ '.' :: (if fraction.isEmpty then ['0'] else fraction)

/-- Digits with the point after the leading digit's place. -/
def positional (digits : List Char) (leading : Int) : List Char :=
  if leading < 0 then
    pointed ['0'] (List.replicate (-leading - 1).toNat '0' ++ digits)
  else
    let places := leading.toNat + 1
    pointed (digits.take places ++ List.replicate (places - digits.length) '0') (digits.drop places)

def exponentText (layout : Layout) (exponent : Int) : List Char :=
  let digits := Nat.toDigits 10 exponent.natAbs
  (if exponent < 0 then '-' else '+') ::
    (List.replicate (layout.exponentDigits - digits.length) '0' ++ digits)

/-- Digits with the point after the first one, if more follow, and an exponent. -/
def scientific (layout : Layout) (digits : List Char) (leading : Int) : List Char :=
  digits.take 1 ++ (if digits.length ≤ 1 then [] else '.' :: digits.drop 1) ++
    'e' :: layout.exponentText leading

/-- The text of a positive decimal. -/
def decimalText (layout : Layout) (decimal : Decimal) : List Char :=
  let digits := Nat.toDigits 10 decimal.digits
  let leading := decimal.exponent + digits.length - 1
  if layout.leastPositional ≤ leading ∧ leading < layout.firstScientific then
    positional digits leading
  else layout.scientific digits leading

def signed (negative : Bool) (text : List Char) : List Char :=
  if negative then '-' :: text else text

def text (layout : Layout) : Double → List Char
  | .nan => layout.notANumber.toList
  | .infinite negative => signed negative layout.infinity.toList
  | .finite x =>
    signed x.negative
      (if x.mantissa = 0 then pointed ['0'] [] else layout.decimalText (shortest x))

end Layout

end Schematic.Double
