/-!
# Grouped digits

Digits may be set in groups: a single underscore may stand between two digits. An
underscore that stands anywhere else spoils the whole number.
-/

namespace Schematic.Text

/-- The digits after a digit and the rest, unless an underscore is misplaced. -/
def digitsAfter (isDigit : Char → Bool) : List Char → Option (List Char × List Char)
  | '_' :: c :: rest => if isDigit c then joined c (digitsAfter isDigit rest) else none
  | ['_'] => none
  | c :: rest => if isDigit c then joined c (digitsAfter isDigit rest) else some ([], c :: rest)
  | [] => some ([], [])
where
  joined (c : Char) (read : Option (List Char × List Char)) : Option (List Char × List Char) :=
    read.map fun (digits, rest) => (c :: digits, rest)

/-- The digits at the front, at least one. -/
def groupedDigits (isDigit : Char → Bool) : List Char → Option (List Char × List Char)
  | c :: rest =>
    if isDigit c then digitsAfter.joined c (digitsAfter isDigit rest) else none
  | [] => none

end Schematic.Text
