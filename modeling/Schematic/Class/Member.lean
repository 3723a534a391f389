import Schematic.Class.Declare
import Schematic.Class.Hints
import Schematic.Class.Shape

/-!
# Members of structs

The members of a class in order of declaration, each with its resolved type,
whether it is optional, and its documentation. A member whose type is a union
with the marker of absent values is an optional member of the rest of the union,
which keeps the metadata around it. Annotations that cannot be resolved make the
whole class unsupported.
-/

namespace Schematic

namespace Annotation

/-- The content of qualifiers and metadata, and the metadata in order from the outside. -/
def peel : Annotation → Annotation × List Metadata
  | annotated inner metadata => ((peel inner).1, metadata ++ (peel inner).2)
  | qualified qualifier inner =>
    if qualifier.isTransparent then peel inner else (qualified qualifier inner, [])
  | t => (t, [])

def isUndefined : Annotation → Bool
  | cls ref => ref = .undefined
  | _ => false

/-- An annotation without the marker of absent values, if it is a union with that marker. -/
def withoutUndefined? (t : Annotation) : Option Annotation :=
  match t.peel with
  | (union _ members, metadata) =>
    if members.any isUndefined then
      let rest := unionOf (members.filter fun member => !member.isUndefined)
      some (if metadata.isEmpty then rest else annotatedWith rest metadata)
    else none
  | _ => none

end Annotation

namespace Module

variable [Environment]

/-- A member as it is reported, given what is declared. -/
def member (name : String) (t : Annotation) (optional : Bool) (doc : Option String) :
    Member Annotation :=
  match t.withoutUndefined? with
  | some t => ⟨name, t, true, Docstring.parseOption doc name⟩
  | none => ⟨name, t, optional, Docstring.parseOption doc name⟩

/-- Unknown names and misused objects in annotations are reported for the class as a whole. -/
def unresolved (ref : ClassRef) : Failure → Failure
  | .unknownName name => report (.unknownName name)
  | .typeFault message => report (.typeFault message)
  | .unhashable kind => report (.unhashable kind)
  | failure => failure
where
  report (failure : Failure) : Failure :=
    .schema (.unsupportedType .unsupported ref.qualname)
      ("Member annotations of " ++ ref.qualname ++ " unresolved: " ++ failure.message?.getD "")

/-- A text that is there and not empty. -/
def filled (text : Option String) : Option String :=
  text.filter (· ≠ "")

def modelMembers (fields : Dict ModelField) (docs : Dict String) : List (Member Annotation) :=
  fields.map fun (name, field) =>
    member ((filled field.publicName).getD name) field.type field.optional
      ((filled (Dict.get? name docs)).or field.description)

def keyMembers (optionalKeys : List String) (hints : Dict Annotation) (docs : Dict String) :
    List (Member Annotation) :=
  hints.map fun (name, t) => member name t (optionalKeys.contains name) (Dict.get? name docs)

def fieldMembers (fields : Dict DataField) (hints : Dict Annotation) (docs : Dict String) :
    List (Member Annotation) :=
  (fields.filter (·.2.role = .stored)).map fun (name, field) =>
    member name ((Dict.get? name hints).getD field.type) field.optional (Dict.get? name docs)

/-- Members of a class of no particular kind; what the class has as an attribute is optional. -/
def attributeMembers (m : Module) (ref : ClassRef) (hints : Dict Annotation) (docs : Dict String) :
    List (Member Annotation) :=
  (hints.filter fun entry => !entry.2.isQualifiedBy .classVar).map fun (name, t) =>
    member name t (m.hasAttribute ref name) (Dict.get? name docs)

def classMembers (m : Module) (ref : ClassRef) : Logged (List (Member Annotation)) := do
  if ClassRef.mappings.contains ref then pure []
  else if m.isModel ref then
    let docs ← m.attributeDocs ref
    pure (modelMembers (((m.class? ref).bind Class.modelFields).getD []) docs)
  else
    let hints ← Logged.lift ((m.hints ref).mapError (unresolved ref))
    let docs ← m.attributeDocs ref
    if m.isTypedDict ref then pure (keyMembers (m.optionalKeys ref) hints docs)
    else
      match m.dataFields? ref with
      | some fields => pure (fieldMembers fields hints docs)
      | none => pure (m.attributeMembers ref hints docs)

/-- The members of the struct that an annotation is, without its wrappers. -/
def members (m : Module) (t : Annotation) : Logged (List (Member Annotation)) :=
  match t.strip with
  | .cls ref => m.classMembers ref
  | _ => .ok []

end Module

end Schematic
