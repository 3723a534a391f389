import Schematic.Error
import Schematic.Json.Basic
import Schematic.Text.Blank
import Schematic.Text.DecimalDigit

/-!
# Export settings

The address of the meta-schema, an optional identifier of the document, and the
indentation of written files, none meaning a single line. Settings are checked
field by field in the order of declaration; unknown fields come last. An
indentation may also be given as text that spells an integer.
-/

namespace Schematic

structure Config where
  schemaUri : String := "https://json-schema.org/draft/2020-12/schema"
  schemaId : Option String := none
  indent : Option Nat := some 2
  deriving DecidableEq, Repr

namespace Config

/-- A checked field: its value, or what is wrong with it. -/
abbrev Checked (α : Type) := Except Problem.Kind α

def checkUri : Json → Checked String
  | .str uri => if uri = "" then .error .stringTooShort else .ok uri
  | _ => .error .stringType

def checkId : Json → Checked (Option String)
  | .null => .ok none
  | .str id => .ok (some id)
  | _ => .error .stringType

/-- Digits with single underscores between them, without the underscores. -/
def spacedDigits : List Char → Option (List Char)
  | [] => none
  | [c] => if c.isDigit then some [c] else none
  | c :: '_' :: rest => if c.isDigit then (spacedDigits rest).map (c :: ·) else none
  | c :: rest => if c.isDigit then (spacedDigits rest).map (c :: ·) else none

/-- The integer that a text spells: a sign, digits, and a fraction of zeros are allowed. -/
def integerOfText? (text : String) : Option Int :=
  let cs := Text.trim text.toList
  let (negative, cs) :=
    match cs with
    | '-' :: rest => (true, rest)
    | '+' :: rest => (false, rest)
    | cs => (false, cs)
  let whole := cs.takeWhile (· ≠ '.')
  let fraction := cs.dropWhile (· ≠ '.')
  if fraction = ['.'] || !(fraction.drop 1).all (· = '0') then none
  else
    (spacedDigits whole).map fun digits =>
      let n := Nat.ofDigitChars 10 digits 0
      if negative then -(n : Int) else n

def checkCount (n : Int) : Checked (Option Nat) :=
  if n < 0 then .error .greaterThanEqual else .ok (some n.toNat)

def checkIndent : Json → Checked (Option Nat)
  | .null => .ok none
  | .int n => checkCount n
  | .bool b => .ok (some b.toNat)
  | .float x =>
    match x.toInt? with
    | some n => checkCount n
    | none => .error (if x.isFinite then .intFromFloat else .finiteNumber)
  | .str text =>
    match integerOfText? text with
    | some n => checkCount n
    | none => .error .intParsing
  | _ => .error .intType

/-- The value of a field with a default, and the problem with it, if there is one. -/
def field {α : Type} (fields : Dict Json) (name : String) (default : α)
    (check : Json → Checked α) : α × List Problem :=
  match Dict.get? name fields with
  | none => (default, [])
  | some value =>
    match check value with
    | .ok value => (value, [])
    | .error kind => (default, [⟨[.field name], kind⟩])

/-- Fields that are not declared. -/
def extraFields (declared : List String) (fields : Dict Json) : List Problem :=
  (fields.filter fun entry => !declared.contains entry.1).map fun entry =>
    ⟨[.field entry.1], .extraForbidden⟩

/-- The settings given by the fields of a record. -/
def check (fields : Dict Json) : Except Failure Config :=
  let standard : Config := {}
  let (schemaUri, uriProblems) := field fields "schema_uri" standard.schemaUri checkUri
  let (schemaId, idProblems) := field fields "schema_id" standard.schemaId checkId
  let (indent, indentProblems) := field fields "indent" standard.indent checkIndent
  let problems := uriProblems ++ idProblems ++ indentProblems ++
    extraFields ["schema_uri", "schema_id", "indent"] fields
  if problems.isEmpty then .ok ⟨schemaUri, schemaId, indent⟩ else .error (.invalid problems)

end Config

end Schematic
