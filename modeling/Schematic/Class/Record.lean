import Schematic.Class.Binding

/-!
# Fields and keys of records

A typed dictionary has keys, a dataclass has fields. Keys and fields are
inherited; what is declared again keeps its place. A key is optional as soon as
one declaration of it makes it so. A field is optional if it has a default value
or a factory of defaults, which may also be an attribute of that name that a base
has.
-/

namespace Schematic

namespace Annotation

/-- The qualifiers around the type of a key, outermost first. -/
def qualifiers : Annotation → List Qualifier
  | annotated inner _ => qualifiers inner
  | qualified qualifier inner =>
    if qualifier.isTransparent then qualifier :: qualifiers inner else []
  | _ => []

def isQualifiedBy (qualifier : Qualifier) : Annotation → Bool
  | qualified own _ => own = qualifier
  | _ => false

end Annotation

namespace Initial

def isOptional : Initial → Bool
  | none => false
  | value _ => true
  | field default factory _ _ => default.isSome || factory

end Initial

namespace Declaration

/-- The annotations of the body, by the names they are known under. -/
def ownAnnotations (d : Declaration) : Dict Annotation :=
  Dict.ofList (d.body.filterMap fun statement =>
    match statement with
    | .annotated name type _ => some (d.knownAs name, type)
    | _ => none)

/-- The right side that a name ends up with in the body, if the body gives it one. -/
def initial? (d : Declaration) (name : String) : Option Initial :=
  d.body.reverse.findSome? fun statement =>
    match statement with
    | .annotated _ _ .none => none
    | .annotated own _ initial => if d.knownAs own = name then some initial else none
    | .assigned names value =>
      if (names.map d.knownAs).contains name then some (.value value) else none
    | .method own | .nested own _ => if d.knownAs own = name then some (.value .none) else none
    | .constant _ | .pass => none

end Declaration

namespace Module

/-! ## Typed dictionaries -/

/-- Whether the type of a key makes the key optional. -/
def isOptionalKey (total : Bool) (t : Annotation) : Bool :=
  let qualifiers := t.qualifiers
  if qualifiers.contains .required then false
  else qualifiers.contains .notRequired || !total

/-- The keys of typed dictionaries and then the class's own ones, as types. -/
def typedKeys (m : Module) (d : Declaration) : Dict Annotation :=
  Dict.update (Dict.ofList (d.bases.flatMap m.annotations))
    (d.ownAnnotations.map fun entry => (entry.1, entry.2.asType))

def optionalKeys (m : Module) (ref : ClassRef) : List String :=
  ((m.class? ref).map Class.optionalKeys).getD []

/-- The optional keys of typed dictionaries and of the class itself. -/
def typedOptionalKeys (m : Module) (d : Declaration) (total : Bool) : List String :=
  d.bases.flatMap m.optionalKeys ++
    (d.ownAnnotations.filter fun entry => isOptionalKey total entry.2).map Prod.fst

/-! ## Dataclasses -/

variable [Environment]

/-- The role of a field; an annotation that is a text announces it. -/
def roleOf (m : Module) (t : Annotation) : FieldRole :=
  match t.text? with
  | some text => Environment.announced m.names text
  | none =>
    if t.isQualifiedBy .classVar then .shared
    else if t.isQualifiedBy .initVar then .parameter
    else .stored

/-- The fields that a dataclass has from its bases, which are given nearest first. -/
def inheritedDataFields (m : Module) (bases : List ClassRef) : Dict DataField :=
  Dict.ofList (bases.reverse.flatMap fun base => (m.dataFields? base).getD [])

def ownDataFields (m : Module) (bases : List ClassRef) (keywordOnly : Bool) (d : Declaration) :
    Dict DataField :=
  d.ownAnnotations.map fun (name, type) =>
    let optional :=
      match d.initial? name with
      | some initial => initial.isOptional
      | none => m.inheritsAttribute bases name
    (name, ⟨m.roleOf type, type, optional, keywordOnly⟩)

/-- The first field without a default after one with a default, `seen` telling of earlier ones. -/
def misplaced? (seen : Bool) : Dict DataField → Option String
  | [] => none
  | (name, field) :: rest =>
    if field.keywordOnly || field.role = .shared then misplaced? seen rest
    else if field.optional then misplaced? true rest
    else if seen then some name
    else misplaced? seen rest

/-- The value that a field takes by default, if it is one. -/
def defaultValue? (m : Module) (bases : List ClassRef) (d : Declaration) (name : String) :
    Option Value :=
  match d.initial? name with
  | some (.value v) => some v
  | some (.field default _ _ _) => default
  | some .none => none
  | none => (m.boundAlong? bases name).bind Annotation.asValue?

/-- The failure of a field that no dataclass can have: one whose objects would share a default that
can change, or one that is not stored and has a factory. -/
def fieldFailure? (m : Module) (bases : List ClassRef) (d : Declaration) (name : String)
    (field : DataField) : Option Failure :=
  if field.role = .stored then
    if (m.defaultValue? bases d name).any Value.isChangeable then some .unacceptable else none
  else
    match d.initial? name with
    | some (.field _ true _ _) =>
      some (.typeFault ("field " ++ name ++ " cannot have a default factory"))
    | _ => none

def dataFieldsFor (m : Module) (bases : List ClassRef) (keywordOnly : Bool) (d : Declaration) :
    Except Failure (Dict DataField) :=
  let own := m.ownDataFields bases keywordOnly d
  let fields := Dict.update (m.inheritedDataFields bases) own
  match own.findSome? fun (name, field) => m.fieldFailure? bases d name field,
      misplaced? false fields with
  | some failure, _ => .error failure
  | none, some name =>
    .error (.typeFault ("non-default argument '" ++ name ++ "' follows default argument"))
  | none, none => .ok fields

end Module

end Schematic
