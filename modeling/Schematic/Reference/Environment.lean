import Schematic.Class.Binding
import Schematic.Reference.Builtin
import Schematic.Reference.Evaluation
import Schematic.Reference.Models

/-!
# A plain environment

The environment of a module without imports. Names in texts mean what the module
declares, then what the body of the class binds, and then the built-in names;
the keys of a typed dictionary do not see its body. Expressions are evaluated as
far as they are known here. Models are collected as by their library.
-/

namespace Schematic

namespace Declaration

/-- How a named tuple is made. -/
def tupleInitializer? (d : Declaration) : Option Initializer :=
  match d.flavour with
  | .namedTuple =>
    some
      { name := d.name ++ ".__new__"
        parameters := d.body.filterMap fun statement =>
          match statement with
          | .annotated own _ (.value v) => some ⟨own, some (.value v), false, true⟩
          | .annotated own _ _ => some ⟨own, none, false, true⟩
          | _ => none
        hasHash := true }
  | _ => none

end Declaration

namespace Module

/-- How an object of a dataclass is made; a field with a factory has an empty list. -/
def dataInitializer (m : Module) (c : Class) (fields : Dict DataField) : Initializer where
  name := c.qualname ++ ".__init__"
  parameters := fields.filterMap fun (name, field) =>
    let default := ((m.boundAlong? c.linear name).getD (.value (.list [])))
    if field.role = .shared then none
    else some ⟨name, if field.optional then some default else none, field.keywordOnly,
      field.role = .stored⟩
  hasHash := false

/-- How an object of a class is made, by the nearest class that says so. -/
def initializer? (m : Module) (ref : ClassRef) : Option Initializer := do
  let c ← (m.linear ref).findSome? fun base => (m.class? base).filter fun c =>
    c.declaration.tupleInitializer?.isSome || (c.declaration.bodyObject? "__init__").isSome
  (c.declaration.tupleInitializer?).or (c.dataFields.map (m.dataInitializer c))

/-- Names that every module and every class body have. -/
def implicitName? (name : String) : Option Annotation :=
  match name with
  | "__name__" | "__module__" => some (.str "m")
  | "__doc__" => some .noneValue
  | _ => none

/-- The scope with the given meanings of names, and behind them the built-in ones. -/
def scopeOf (m : Module) (names namesWithin : String → Option Annotation) : Scope where
  find? name := ((names name).or (implicitName? name)).or (Builtin.lookup? name)
  findWithin? name := (namesWithin name).or (Builtin.lookup? name)
  line := m.linear
  bound? := m.bodyObject?
  enumerators := m.enumerators
  listed := m.listedMembers
  initializer? := m.initializer?

/-- The names of the module alone. -/
def ownNames (m : Module) (name : String) : Option Annotation :=
  Dict.get? name m.names

/-- The scope of the annotations in the body of a class. -/
def scope (m : Module) (ref : ClassRef) : Scope :=
  if m.isTypedDict ref then m.scopeOf m.ownNames m.ownNames
  else
    m.scopeOf (fun name => (m.ownNames name).or (m.bodyObject? ref name)) (m.bodyObject? ref)

/-- What a dotted name means in the module. -/
def lookup? (m : Module) (path : String) : Option Annotation :=
  let scope := m.scopeOf m.ownNames m.ownNames
  match path.splitOn "." with
  | [] => none
  | first :: rest =>
    rest.foldl
      (fun owner name => owner.bind fun owner => (Selection.select scope owner name).toOption)
      (m.ownNames first)

end Module

namespace Scope

open Annotation

/-- Whether an object is no type where a text stands: what qualifies an attribute is no part of a type. -/
def refuses (position : Position) (t : Annotation) : Bool :=
  match position with
  | .whole => false
  | .quoted => t.isQualifiedBy .final
  | .part => t.isQualifiedBy .classVar || t.isQualifiedBy .final

/-- The object that a text denotes, as a type. A tuple is none. -/
def denoted (scope : Scope) (position : Position) (text : String) : Except Failure Annotation :=
  match Expression.read? text with
  | none => .error .malformedExpression
  | some expression => do
    let t ← expression.eval scope
    let t ← checkedType "Forward references must evaluate to types." t
    if refuses position t then
      .error (.typeFault (String.ofList t.repr ++ " is not valid as type argument"))
    else pure t

end Scope

namespace Module

/-- How many texts may lead to one another. -/
def followLimit : Nat := 480

/-- Whether the annotations of a class are parts of its type, as those of typed dictionaries and
named tuples are. -/
def hasParts (m : Module) (ref : ClassRef) : Bool :=
  (m.class? ref).any fun c => c.declaration.flavour matches .typedDict _ | .namedTuple

/-- How the texts in the annotations of a class are read. -/
def plainReading (m : Module) (ref : ClassRef) : Annotation.Reading where
  denoted position := (m.scope ref).denoted (if m.hasParts ref then .part else position)
  limit := followLimit

end Module

/-- The base class of models, with the public names that it binds. -/
@[reducible] def ModelBase.plain : ModelBase where
  attributes :=
    ["construct", "copy", "dict", "from_orm", "json", "model_computed_fields", "model_config",
      "model_construct", "model_copy", "model_dump", "model_dump_json", "model_extra",
      "model_fields", "model_fields_set", "model_json_schema", "model_parametrized_name",
      "model_post_init", "model_rebuild", "model_validate", "model_validate_json",
      "model_validate_strings", "parse_file", "parse_obj", "parse_raw", "schema", "schema_json",
      "update_forward_refs", "validate"]
  doc := none
  texts := []

/-- The environment of a module that imports nothing. A text announces no role there. -/
@[reducible] def Environment.plain : Environment where
  toModelBase := .plain
  reading m number := m.plainReading (.declared number "" .ordinary)
  announced _ _ := .stored
  collected m ref d := @Module.modelFieldsFor .plain m m.plainReading ref d

end Schematic
