import Schematic.Number.Double
import Schematic.Text.DecimalDigit
import Schematic.Text.Grouped

/-!
# Decimal numerals

A decimal numeral has a whole part, and perhaps a fraction after a point and an
exponent after a letter. It stands for the double that is nearest to the number
written.
-/

namespace Schematic

structure Decimal where
  whole : List Char
  /-- The digits after the point, if there is a point. -/
  fraction : Option (List Char)
  exponent : Option Int

namespace Decimal

/-- The digits at the front, of which there may be none. -/
def digits : List Char → Option (List Char × List Char)
  | c :: rest =>
    if c.isDigit then Text.groupedDigits Char.isDigit (c :: rest) else some ([], c :: rest)
  | [] => some ([], [])

/-- Whether a number is negative by the sign at its front, and what follows the sign. -/
def sign : List Char → Bool × List Char
  | '-' :: rest => (true, rest)
  | '+' :: rest => (false, rest)
  | cs => (false, cs)

def signed (negative : Bool) (n : Nat) : Int :=
  if negative then -n else n

/-- An exponent at the front; a letter without digits after it is none. -/
def exponentOf (cs : List Char) : Option (Option Int × List Char) :=
  match cs with
  | c :: rest =>
    if c = 'e' || c = 'E' then
      let (negative, rest) := sign rest
      (digits rest).map fun (power, rest) =>
        if power.isEmpty then (none, cs)
        else (some (signed negative (Text.digitsValue power)), rest)
    else some (none, cs)
  | [] => some (none, [])

/-- The numeral at the front, whose parts may all be empty, and the rest. -/
def read (cs : List Char) : Option (Decimal × List Char) := do
  let (whole, rest) ← digits cs
  let (fraction, rest) ←
    match rest with
    | '.' :: rest => (digits rest).map fun (places, rest) => (some places, rest)
    | rest => some (none, rest)
  let (exponent, rest) ← exponentOf rest
  pure (⟨whole, fraction, exponent⟩, rest)

def places (numeral : Decimal) : List Char :=
  numeral.fraction.getD []

/-- Whether the numeral has a digit before its exponent. -/
def hasDigits (numeral : Decimal) : Bool :=
  !(numeral.whole ++ numeral.places).isEmpty

def toDouble (numeral : Decimal) : Double :=
  Double.ofDecimal false (Text.digitsValue (numeral.whole ++ numeral.places))
    (numeral.exponent.getD 0 - numeral.places.length)

end Decimal

end Schematic
