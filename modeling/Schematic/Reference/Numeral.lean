import Schematic.Annotation.Value
import Schematic.Json.Reader
import Schematic.Number.Decimal

/-!
# Numerals

A numeral is a decimal, hexadecimal, octal or binary integer, a decimal fraction
or one with an exponent, or an imaginary number. A single underscore may stand
between two digits. A decimal integer does not start with a zero unless it is
zero, and has a limited number of digits. What follows a numeral at once is no
letter and no digit, except for a word that may come after a number.
-/

namespace Schematic.Numeral

def isDigitOf (base : Nat) (c : Char) : Bool :=
  match Json.Reader.hexValue? c with
  | some n => n < base
  | none => false

/-- An integer in a base other than ten, after its mark. -/
def based (base : Nat) (cs : List Char) : Option (Value × List Char) :=
  let cs := match cs with
    | '_' :: rest => rest
    | cs => cs
  (Text.groupedDigits (isDigitOf base) cs).map fun (ds, rest) =>
    (.int (ds.foldl (fun n c => n * base + (Json.Reader.hexValue? c).getD 0) 0 : Nat), rest)

/-- The value of a decimal integer; an overlong one, or one with a zero in front, has none. -/
def integerValue? (ds : List Char) : Option Value :=
  if Json.integerDigitLimit < ds.length then none
  else if ds.head? = some '0' && ds.any (· ≠ '0') then none
  else some (.int (Text.digitsValue ds : Nat))

/-- A decimal numeral. -/
def decimal (cs : List Char) : Option (Value × List Char) := do
  let (numeral, rest) ← Decimal.read cs
  match rest with
  | 'j' :: rest | 'J' :: rest => pure (.complex (.zero false) numeral.toDouble, rest)
  | rest =>
    if numeral.fraction.isSome || numeral.exponent.isSome then pure (.float numeral.toDouble, rest)
    else
      let value ← integerValue? numeral.whole
      pure (value, rest)

/-- Words that may stand right after a number. -/
def followers : List (List Char) :=
  ["and", "else", "for", "if", "in", "is", "not", "or"].map String.toList

/-- Whether a numeral may end before a text. -/
def endsBefore (cs : List Char) : Bool :=
  match cs with
  | c :: _ =>
    !(c.isAlphanum || c = '_' || 0x80 ≤ c.toNat) || followers.any fun word => word.isPrefixOf cs
  | [] => true

/-- The numeral at the front of a text that starts with a digit, or with a point and a digit. -/
def read? (cs : List Char) : Option (Value × List Char) :=
  let numeral :=
    match cs with
    | '0' :: 'x' :: rest | '0' :: 'X' :: rest => based 16 rest
    | '0' :: 'o' :: rest | '0' :: 'O' :: rest => based 8 rest
    | '0' :: 'b' :: rest | '0' :: 'B' :: rest => based 2 rest
    | cs => decimal cs
  numeral.filter fun (_, rest) => endsBefore rest

end Schematic.Numeral
