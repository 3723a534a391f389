import Schematic.Annotation.Basic

/-!
# Building annotations

Writing an annotation normalizes it. Where a type is expected, `None` means its
type and a text a reference. A union takes in the members of the unions it is
made from and drops repeated members, and a union of one member is that member.
A literal takes in the values of the literals it is made from. Metadata around
metadata is one layer.
-/

namespace Schematic.Annotation

/-- A type as an argument of a typing form. -/
def asType : Annotation → Annotation
  | value .none => noneType
  | value v =>
    match v.text? with
    | some text => forward text
    | none => value v
  | t => t

/-- The members of a union, or the type itself. -/
def members : Annotation → List Annotation
  | union _ members => members
  | t => [t]

def unionOfMembers (style : UnionStyle) (types : List Annotation) : Annotation :=
  match distinct (types.flatMap members) with
  | [t] => t
  | types => union style types

/-- The union of types, written with a name. -/
def unionOf (types : List Annotation) : Annotation :=
  unionOfMembers .named (types.map asType)

def optional (t : Annotation) : Annotation :=
  unionOf [t, noneValue]

/-- Whether bars between this and another such type make a union of classes. -/
def isBarred : Annotation → Bool
  | cls _ => true
  | value .none => true
  | generic (.cls _) _ => true
  | union .barred _ => true
  | _ => false

/-- The members of a type between bars. -/
def barredMembers : Annotation → List Annotation
  | union .barred members => members
  | t => [asType t]

/-- The union of two types, written with a bar. -/
def or (a b : Annotation) : Annotation :=
  if a.isBarred && b.isBarred then
    match distinct (barredMembers a ++ barredMembers b) with
    | [t] => t
    | types => union .barred types
  else unionOf [a, b]

/-- A type with metadata, which joins the metadata that the type has. -/
def annotatedWith (t : Annotation) (metadata : List Metadata) : Annotation :=
  match asType t with
  | annotated inner own => annotated inner (own ++ metadata)
  | t => annotated t metadata

/-- A literal of some values, of which repeated ones are dropped. -/
def literalOf (values : List Value) : Annotation :=
  literal (Value.distinct values)

/-- The object that a value is. -/
def ofValue : Value → Annotation
  | .cls ref => cls ref
  | v => value v

/-- The value that an object is, a class included. -/
def asValue? : Annotation → Option Value
  | cls ref => some (.cls ref)
  | value v => some v
  | _ => none

/-- The values that objects are, if all are values. -/
def values? : List Annotation → Option (List Value)
  | [] => some []
  | value v :: rest => (values? rest).map (v :: ·)
  | _ => none

/-- A collection of objects. -/
def collectionOf (shape : Shape) (items : List Annotation) : Annotation :=
  match shape, values? items with
  | .tuple, some values => value (.tuple values)
  | .list, some values => value (.list values)
  | _, _ => collection shape items

/-- A parameterized class or form; a class takes its arguments as they are. -/
def genericOf (base : GenericBase) (args : List Annotation) : Annotation :=
  match base with
  | .cls _ => generic base args
  | .form _ => generic base (args.map asType)

/-- A qualified type; a parameter of construction takes its type as it is. -/
def qualify (qualifier : Qualifier) (t : Annotation) : Annotation :=
  qualified qualifier (if qualifier = .initVar then t else asType t)

end Schematic.Annotation
