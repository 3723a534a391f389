import Schematic.Class.Hints
import Schematic.Class.Record

/-!
# Fields of models

What a library of models makes of a class: fields for the annotations of the
class and its bases, as far as they are no class variables nor private. A field
that is not declared again is that of the first base that has it. One that is
declared is of the type that is annotated, without the metadata around it, and is
optional if it has a default value or a factory of defaults, or if a base has an
attribute of its name.
-/

namespace Schematic

namespace Annotation

/-- A type without the metadata around it. -/
def content : Annotation → Annotation
  | annotated inner _ => inner
  | t => t

/-- The type of a model's field. -/
def fieldType : Annotation → Annotation
  | qualified .final inner => inner.content
  | t => t.content

end Annotation

namespace Module

/-- The resolved form of a model's annotation; with an unknown name in it, the annotation itself. -/
def resolveIfKnown (reading : Annotation.Reading) (t : Annotation) : Except Failure Annotation :=
  match t.resolve reading with
  | .error (.unknownName _) => .ok t.asType
  | result => result

/-- Lays the annotations of classes over others, given how texts are read in each class. -/
def modelHintsAlong (m : Module) (readings : ClassRef → Annotation.Reading) (hints : Dict Annotation) :
    List ClassRef → Except Failure (Dict Annotation)
  | [] => .ok hints
  | ref :: rest => do
    let own ← (m.annotations ref).mapM fun entry =>
      (resolveIfKnown (readings ref) entry.2).map (entry.1, ·)
    m.modelHintsAlong readings (Dict.update hints own) rest

variable [ModelBase]

/-- The right side of a model's field: that of the body, or an attribute of a base. -/
def modelInitial (m : Module) (bases : List ClassRef) (d : Declaration) (name : String) : Initial :=
  match d.initial? name with
  | some initial => initial
  | none => if m.inheritsAttribute bases name then .value .none else .none

/-- The field of a name with the given type, if the name is one of a field. -/
def modelField? (m : Module) (bases : List ClassRef) (d : Declaration) (name : String)
    (t : Annotation) : Option ModelField :=
  let initial := m.modelInitial bases d name
  if t.isQualifiedBy .classVar || name.startsWith "_" ||
      (t.isQualifiedBy .final && initial.isOptional) then none
  else
    match initial with
    | .none =>
      let required : ModelField := ⟨t.fieldType, false, none, none⟩
      if Dict.contains name d.ownAnnotations then some required
      else some ((d.bases.findSome? (m.fieldOf? · name)).getD required)
    | .value _ => some ⟨t.fieldType, true, none, none⟩
    | .field default factory publicName description =>
      some ⟨t.fieldType, default.isSome || factory, publicName, description⟩

/-- The fields of a model, which is in the module already with its linearization. -/
def modelFieldsFor (m : Module) (readings : ClassRef → Annotation.Reading) (ref : ClassRef)
    (d : Declaration) : Except Failure (Dict ModelField) := do
  let line := m.linear ref
  let hints ← m.modelHintsAlong readings [] line.reverse
  pure (hints.filterMap fun (name, t) => (m.modelField? (line.drop 1) d name t).map (name, ·))

end Module

end Schematic
