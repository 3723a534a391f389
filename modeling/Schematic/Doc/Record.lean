import Schematic.Doc.Symbol
import Schematic.Json.Basic

/-!
# Symbol records

A symbol may be given as a record, which is checked against the declaration of
symbols and tags: which fields there are, which are required, and what each may
hold. All problems are reported, the declared fields first and in their order,
items of a list one after the other, then the fields that are not declared.
-/

namespace Schematic.Symbol

/-- A checked value with the problems found in it; the value counts if there are none. -/
abbrev Checked (α : Type) := α × List Problem

def problem (kind : Problem.Kind) : List Problem :=
  [⟨[], kind⟩]

def checkText : Json → Checked String
  | .str text => (text, [])
  | _ => ("", problem .stringType)

def checkName : Json → Checked String
  | .str "" => ("", problem .stringTooShort)
  | value => checkText value

/-- Checks the items of a list from the given position on. -/
def checkItems {α : Type} (check : Json → Checked α) (position : Nat) : List Json → Checked (List α)
  | [] => ([], [])
  | item :: rest =>
    let (value, problems) := check item
    let (values, others) := checkItems check (position + 1) rest
    (value :: values, problems.map (·.inside (.position position)) ++ others)

def checkList {α : Type} (check : Json → Checked α) : Json → Checked (List α)
  | .arr items => checkItems check 0 items
  | _ => ([], problem .tupleType)

/-- Checks a field; a missing one has the default, or is a problem if there is no default. -/
def checkField {α : Type} [Inhabited α] (fields : Dict Json) (name : String) (default? : Option α)
    (check : Json → Checked α) : Checked α :=
  match Dict.get? name fields, default? with
  | some value, _ =>
    let (value, problems) := check value
    (value, problems.map (·.inside (.field name)))
  | none, some value => (value, [])
  | none, none => (default, [⟨[.field name], .missing⟩])

def undeclared (declared : List String) (fields : Dict Json) : List Problem :=
  (fields.filter fun entry => !declared.contains entry.1).map fun entry =>
    ⟨[.field entry.1], .extraForbidden⟩

def checkTag : Json → Checked Tag
  | .obj fields =>
    let (name, nameProblems) := checkField fields "name" none checkName
    let (text, textProblems) := checkField fields "text" (some []) (checkList checkText)
    (⟨name, text⟩, nameProblems ++ textProblems ++ undeclared ["name", "text"] fields)
  | _ => (default, problem .modelType)

def checkSymbol : Json → Checked Symbol
  | .obj fields =>
    let (name, nameProblems) := checkField fields "name" (some "") checkText
    let (documentation, documentationProblems) :=
      checkField fields "documentation" (some []) (checkList checkText)
    let (tags, tagProblems) := checkField fields "tags" (some []) (checkList checkTag)
    (⟨name, documentation, tags⟩, nameProblems ++ documentationProblems ++ tagProblems ++
      undeclared ["name", "documentation", "tags"] fields)
  | _ => (default, problem .modelType)

/-- The symbol given by a record. -/
def ofRecord (record : Json) : Except Failure Symbol :=
  let (symbol, problems) := checkSymbol record
  if problems.isEmpty then .ok symbol else .error (.invalid problems)

end Schematic.Symbol
