import Schematic.Dict
import Schematic.Error

/-!
# Symbols

The documentation of a declaration: its name, fragments of free text, and tags
in order of declaration, each with fragments of text. Reading a symbol joins the
fragments. A tag without a name is a problem and makes its symbol unreadable.
-/

namespace Schematic

structure Tag where
  name : String
  text : List String
  deriving DecidableEq, Repr, Inhabited

structure Symbol where
  name : String
  documentation : List String
  tags : List Tag
  deriving DecidableEq, Repr, Inhabited

namespace Symbol

/-- Every tag with its text in one piece, in order of declaration. -/
def entries (symbol : Symbol) : Except Failure (List (String × String)) :=
  if symbol.tags.all (·.name ≠ "") then
    .ok (symbol.tags.map fun tag => (tag.name, String.join tag.text))
  else .error (.invalid [⟨[.field "name"], .stringTooShort⟩])

/-- The tags by name: a repeated tag keeps its first place and its last text. -/
def tagTexts (symbol : Symbol) : Except Failure (Dict String) :=
  symbol.entries.map Dict.ofList

/-- The free text; a symbol without any has no description. -/
def description? (symbol : Symbol) : Option String :=
  let text := String.join symbol.documentation
  if text = "" then none else some text

/-- The tags of a declaration that may lack documentation. -/
def tagTextsOf : Option Symbol → Except Failure (Dict String)
  | none => .ok []
  | some symbol => symbol.tagTexts

def descriptionOf (symbol : Option Symbol) : Option String :=
  symbol.bind description?

end Symbol

end Schematic
