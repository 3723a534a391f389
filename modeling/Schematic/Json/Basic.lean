import Schematic.Dict
import Schematic.Number.Double

/-!
# JSON values

Numbers come in two kinds: an integer of any size, and a double for a numeral
with a fraction or an exponent. The two kinds are different values even where
they denote the same number. Objects keep the order of their keys.
-/

namespace Schematic

inductive Json where
  | null
  | bool (value : Bool)
  | int (value : Int)
  | float (value : Double)
  | str (value : String)
  | arr (items : List Json)
  | obj (fields : List (String × Json))
  deriving Inhabited

namespace Json

/-- The greatest number of digits of an integer that is converted from a text or to one. -/
def integerDigitLimit : Nat := 4300

/-- The fields of an object; any other value has none. -/
def fields : Json → Dict Json
  | obj fields => fields
  | _ => []

def items : Json → List Json
  | arr items => items
  | _ => []

/-- The value under a key of an object. -/
def get? (key : String) (value : Json) : Option Json :=
  Dict.get? key value.fields

def str? : Json → Option String
  | str value => some value
  | _ => none

def strings (values : List String) : Json :=
  arr (values.map str)

end Json

end Schematic
