import Schematic.Error
import Schematic.Json.Reader
import Schematic.Number.Arithmetic
import Schematic.Number.Decimal
import Schematic.Text.Blank

/-!
# Numbers in texts

A text spells a number if it holds nothing else but blanks at its ends. Digits may
be decimal digits of any script and may be set in groups. An integer may be
written in any base up to thirty-six, with the mark of its base in front or
without; one that is written in decimal digits has a limited number of them.
-/

namespace Schematic.Spelling

/-- A character of a number in ASCII, if it is a digit or a blank. -/
def inAscii (c : Char) : Char :=
  if c.toNat < 0x80 then c
  else if Text.isBlank c then ' '
  else ((Text.digitValue? c).map Nat.digitChar).getD c

def isSpace (c : Char) : Bool :=
  c = ' ' || (0x9 ≤ c.toNat && c.toNat ≤ 0xD)

/-- A text without spaces at its ends. -/
def trimmed (cs : List Char) : List Char :=
  ((cs.dropWhile isSpace).reverse.dropWhile isSpace).reverse

/-- The characters by which a text spells a number. -/
def characters (s : String) : List Char :=
  trimmed (s.toList.map inAscii)

/-! ## Integers -/

/-- The value of a digit in a base up to thirty-six. -/
def digitValue? (c : Char) : Option Nat :=
  if c.isDigit then some (c.toNat - '0'.toNat)
  else if c.isAlpha then some (c.toLower.toNat - 'a'.toNat + 10)
  else none

def isDigitOf (base : Nat) (c : Char) : Bool :=
  match digitValue? c with
  | some n => n < base
  | none => false

/-- The base that the mark at the front stands for, and what follows the mark. -/
def marked? : List Char → Option (Nat × List Char)
  | '0' :: c :: rest =>
    match c.toLower with
    | 'x' => some (16, rest)
    | 'o' => some (8, rest)
    | 'b' => some (2, rest)
    | _ => none
  | _ => none

/-- The base of an integer and its digits; a base of zero is the one that the mark stands for. -/
def basedDigits (base : Nat) (cs : List Char) : Nat × List Char :=
  let unmarked := (if base = 0 then 10 else base, cs)
  match marked? cs with
  | some (own, rest) =>
    if base ≠ 0 && base ≠ own then unmarked
    else
      match rest with
      | '_' :: rest => (own, rest)
      | rest => (own, rest)
  | none => unmarked

/-- The bases in which each digit stands for some bits; their integers may have any length. -/
def bitBases : List Nat := [2, 4, 8, 16, 32]

/-- The integer that characters spell in a base. -/
def integer (base : Nat) (cs : List Char) : Except Failure Int :=
  let (negative, rest) := Decimal.sign cs
  let (own, rest) := basedDigits base rest
  match Text.groupedDigits (isDigitOf own) rest with
  | some (digits, []) =>
    if !bitBases.contains own && Json.integerDigitLimit < digits.length then .error .overlongInteger
    else if base = 0 && own = 10 && digits.head? = some '0' && digits.any (· ≠ '0') then
      .error .unacceptable
    else
      let n := digits.foldl (fun n c => n * own + (digitValue? c).getD 0) 0
      .ok (Decimal.signed negative n)
  | _ => .error .unacceptable

/-! ## Doubles -/

/-- A magnitude that is named at the front. -/
def named? (cs : List Char) : Option (Double × List Char) :=
  let names : List (String × Double) :=
    [("infinity", .infinite false), ("inf", .infinite false), ("nan", .nan)]
  names.findSome? fun (name, x) =>
    if name.toList.isPrefixOf (cs.map Char.toLower) then some (x, cs.drop name.length) else none

/-- The magnitude at the front, and the rest. -/
def magnitude? (cs : List Char) : Option (Double × List Char) :=
  (named? cs).or (((Decimal.read cs).filter fun (numeral, _) => numeral.hasDigits).map
    fun (numeral, rest) => (numeral.toDouble, rest))

def withSign (negative : Bool) (x : Double) : Double :=
  if negative then x.negate else x

/-- The double that characters spell. -/
def real? (cs : List Char) : Option Double :=
  let (negative, rest) := Decimal.sign cs
  match magnitude? rest with
  | some (x, []) => some (withSign negative x)
  | _ => none

/-! ## Complex numbers -/

def isUnit (cs : List Char) : Bool :=
  cs = ['j'] || cs = ['J']

/-- The imaginary magnitude that makes up characters, which is one if only the unit is given. -/
def imaginary? (cs : List Char) : Option Double :=
  match magnitude? cs with
  | some (y, rest) => if isUnit rest then some y else none
  | none => if isUnit cs then some (.ofInt 1) else none

/-- The parts of a number without brackets around it. -/
def parts? (cs : List Char) : Option (Double × Double) :=
  let (negative, rest) := Decimal.sign cs
  match imaginary? rest, magnitude? rest with
  | some y, _ => some (.zero false, withSign negative y)
  | none, some (x, []) => some (withSign negative x, .zero false)
  | none, some (x, c :: rest) =>
    if c = '+' || c = '-' then
      (imaginary? rest).map fun y => (withSign negative x, withSign (c = '-') y)
    else none
  | none, none => none

/-- The parts of the complex number that characters spell. -/
def complex? (cs : List Char) : Option (Double × Double) :=
  match cs, cs.reverse with
  | '(' :: rest, ')' :: _ => parts? (trimmed rest.dropLast)
  | cs, _ => parts? cs

end Schematic.Spelling
