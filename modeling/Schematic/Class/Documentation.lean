import Schematic.Class.LibraryText
import Schematic.Log

/-!
# Documentation of classes

A class is documented by the text written for it, not by that of a base nor by
the signature that a dataclass goes by when nothing is written. An attribute is
documented by the text that stands right after its annotation or assignment in
the source text of the class; a derived class overrides the texts of its bases.
A source text that cannot be had is skipped and leaves a record.
-/

namespace Schematic

namespace Declaration

/-- The documentation text of the class: its own one, or a text that opens the body. -/
def writtenDoc (d : Declaration) : Option String :=
  match d.doc, d.body with
  | some text, _ => some text
  | none, .constant (.str text) :: _ => some text
  | none, _ => none

/-- The annotated names of a body, in order. -/
def annotatedNames (d : Declaration) : List String :=
  d.body.filterMap fun statement =>
    match statement with
    | .annotated name _ _ => some name
    | _ => none

/-- The text a class goes by: the written one, or the signature of a named tuple. In a dataclass
an empty text counts as none. -/
def classDoc (d : Declaration) : Option String :=
  match d.writtenDoc, d.flavour with
  | some "", .dataclass _ => none
  | some text, _ => some text
  | none, .namedTuple =>
    let fields := Dict.keys (Dict.ofList (d.annotatedNames.map (·, ())))
    let lone := if fields.length = 1 then "," else ""
    some (d.name ++ "(" ++ ", ".intercalate fields ++ lone ++ ")")
  | none, _ => none

end Declaration

namespace Statement

/-- The name that a statement declares. -/
def declared? : Statement → Option String
  | annotated name _ _ => some name
  | assigned [name] _ => some name
  | _ => none

def text? : Statement → Option String
  | constant (.str text) => some text
  | _ => none

/-- The texts that stand right after the declaration of a name. -/
def documented : List Statement → List (String × String)
  | first :: second :: rest =>
    (match first.declared?, second.text? with
      | some name, some text => [(name, text)]
      | _, _ => []) ++ documented (second :: rest)
  | _ => []

end Statement

namespace Class

/-- The texts in a class's own source text, with the record that reading it leaves. -/
def ownAttributeDocs (c : Class) : List (String × String) × List Event :=
  match c.declaration.source with
  | .faithful => (Statement.documented c.declaration.body, [])
  | .classless => ([], [])
  | .unavailable => ([], [.sourceUnavailable c.qualname])
  | .malformed => ([], [.sourceMalformed c.qualname])

end Class

namespace Module

variable [ModelBase]

/-- The documentation text of a class. -/
def classDoc? (m : Module) (ref : ClassRef) : Option String :=
  ref.libraryDoc?.or <| (m.class? ref).bind fun c =>
    c.declaration.classDoc.filter fun text =>
      !(m.isDataclass ref && text.startsWith (c.declaration.name ++ "("))

/-- The texts and the record that a class contributes. Abstract collections have no source text. -/
def ownAttributeDocs (m : Module) (ref : ClassRef) : List (String × String) × List Event :=
  match m.class? ref, ref with
  | some c, _ => c.ownAttributeDocs
  | none, .abstract name => ([], [.sourceUnavailable name])
  | none, .library "BaseModel" => (ModelBase.texts, [])
  | none, _ => ([], [])

/-- The documentation texts of a class's attributes, its own over those of its bases. -/
def attributeDocs (m : Module) (ref : ClassRef) : Logged (Dict String) :=
  let contributions := (m.linear ref).reverse.map m.ownAttributeDocs
  ⟨.ok (Dict.ofList (contributions.flatMap Prod.fst)), contributions.flatMap Prod.snd⟩

end Module

end Schematic
