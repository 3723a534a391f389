import Schematic.Class.Documentation
import Schematic.Class.Enumeration
import Schematic.Doc.Docstring
import Schematic.Model.Basic

/-!
# Shapes of annotations

What an annotation is to a schema is decided once its wrappers are off. Classes
of numbers, texts and truth values are primitive; an enumeration is a union of
its members, a literal of several values one of its values. Collections are
arrays, tuples are tuples, and classes with annotations, typed dictionaries,
dataclasses and models are structs. To tell whether something is an array, it is
looked up in a hash table, which a literal of a list does not survive.
-/

namespace Schematic

/-- The flags of a literal of a value. -/
def Value.flags (v : Value) : Flags :=
  match v.underlying.plain with
  | .bool _ => [.booleanLiteral]
  | .int _ | .float _ => [.numberLiteral]
  | .str _ => [.stringLiteral]
  | .none => [.null]
  | _ => []

namespace ClassRef

/-- The classes whose values are arrays. -/
def arrays : List ClassRef :=
  [builtin "list", builtin "set", builtin "frozenset", abstract "Collection", abstract "Iterable",
    abstract "MutableSequence", abstract "MutableSet", abstract "Sequence", abstract "Set"]

def mappings : List ClassRef :=
  [builtin "dict", abstract "Mapping", abstract "MutableMapping"]

def tuple : ClassRef := builtin "tuple"

end ClassRef

namespace Annotation

/-- The class that a class, a parameterized class or a form stands for. -/
def origin? : Annotation → Option ClassRef
  | cls ref => some ref
  | generic base _ => some base.origin
  | bare form => some form.origin
  | _ => none

def isArrayForm (t : Annotation) : Bool :=
  match t.origin? with
  | some ref => ClassRef.arrays.contains ref
  | none => false

/-- Whether an annotation is an array. -/
def isArray (t : Annotation) : Except Failure Bool :=
  match t.strip.unhashable? with
  | none => .ok t.strip.isArrayForm
  | some kind => .error (.unhashable kind)

/-- The parameters of an annotation. -/
def args : Annotation → List Annotation
  | generic _ args => args
  | union _ members => members
  | literal values => values.map value
  | annotated inner _ => [inner]
  | qualified qualifier inner => if qualifier = .initVar then [] else [inner]
  | _ => []

/-- The type of an array's elements, if it is given. -/
def element? (t : Annotation) : Option Annotation :=
  t.strip.args.head?.filter fun element => !element.isNoneValue

/-- The value of a literal of one value, or of a member of an enumeration. -/
def literalValue (t : Annotation) : Except Failure Value :=
  match t.strip with
  | value (.member owner name v) => .ok (Value.member owner name v).underlying
  | literal [v] => .ok v.underlying
  | _ => .error (.notSingleLiteral t.render)

/-- The literal of one of a literal's values; the items of a tuple are values themselves. -/
def literalOfValue (v : Value) : Annotation :=
  match v.plain with
  | .tuple items => literalOf items
  | _ => literal [v]

/-- A member of a union; a literal of several values counts as that many members. -/
def flattened (member : Annotation) : List Annotation :=
  match member.strip with
  | literal (first :: second :: rest) => (first :: second :: rest).map literalOfValue
  | _ => [member]

/-- The first documentation text in the metadata around an annotation, from the outside. -/
def outerDoc? : Annotation → Option String
  | annotated inner metadata =>
    match metadata.findSome? Metadata.documentation? with
    | some text => some text
    | none => if inner.isNoneValue then none else outerDoc? inner
  | synonym _ _ inner | newType _ _ inner => if inner.isNoneValue then none else outerDoc? inner
  | qualified qualifier inner =>
    if !qualifier.isTransparent || inner.isNoneValue then none else outerDoc? inner
  | _ => none

mutual

/-- How deep parameters are nested. -/
def height : Annotation → Nat
  | generic _ args => heightOfAll args + 1
  | union _ members => heightOfAll members + 1
  | annotated inner _ | qualified _ inner => height inner + 1
  | synonym _ _ inner | newType _ _ inner => height inner + 1
  | _ => 1

def heightOfAll : List Annotation → Nat
  | [] => 0
  | first :: rest => max (height first) (heightOfAll rest)

end

end Annotation

namespace Module

variable [ModelBase]

/-- Whether a class has members that a schema can list. -/
def isStruct (m : Module) (ref : ClassRef) : Bool :=
  m.isTypedDict ref || m.isDataclass ref || m.isModel ref || !(m.annotations ref).isEmpty

def isTupleClass (m : Module) (ref : ClassRef) : Bool :=
  ref = .tuple || (m.derives ref .tuple && m.hasAttribute ref "_fields")

def isTuple (m : Module) (t : Annotation) : Bool :=
  match t.strip with
  | .cls ref => m.isTupleClass ref
  | .generic base _ => base.origin = .tuple
  | .bare form => form.origin = .tuple
  | _ => false

/-- The flags of a class that is neither primitive nor an enumeration. -/
def structFlags (m : Module) (ref : ClassRef) : Flags :=
  if ClassRef.arrays.contains ref || m.isTupleClass ref || m.isStruct ref then [.object] else []

def classFlags (m : Module) (ref : ClassRef) : Flags :=
  match ref with
  | .builtin "str" => [.string]
  | .builtin "bool" => [.boolean]
  | .builtin "int" | .builtin "float" => [.number]
  | .builtin "NoneType" => [.null]
  | .undefined => [.undefined]
  | ref => if m.isEnumeration ref then [.enumLike, .union] else m.structFlags ref

def flags (m : Module) (t : Annotation) : Except Failure Flags :=
  match t.strip with
  | .cls ref => .ok (m.classFlags ref)
  | .value .none => .ok [.null]
  | .value (.member owner name v) => .ok (Value.member owner name v).flags
  | .literal [v] => .ok v.flags
  | .literal _ => .ok [.union]
  | .union _ _ => .ok [.union]
  | stripped => do
    if (← stripped.isArray) || m.isTuple stripped then pure [.object] else pure []

def unionMembers (m : Module) (t : Annotation) : List Annotation :=
  match t.strip with
  | .literal values => values.map Annotation.literalOfValue
  | .union _ members => members.flatMap Annotation.flattened
  | .cls ref => (m.listedMembers ref).map .value
  | _ => []

/-! ## Documentation -/

/-- Only enumerations and structs lend their documentation to a schema. -/
def isDocumented (m : Module) (ref : ClassRef) : Bool :=
  ref ≠ .undefined && (m.isEnumeration ref || m.isStruct ref)

/-- The symbol of the class that an annotation is, without its wrappers. -/
def classSymbol? (m : Module) (t : Annotation) : Option Symbol :=
  match t.strip with
  | .cls ref =>
    if m.isDocumented ref then Docstring.parseOption (m.classDoc? ref) ref.qualname else none
  | _ => none

/-- The symbol of an annotation: that of its class, or else that of the metadata around it. -/
def symbol? (m : Module) (t : Annotation) : Option Symbol :=
  match m.classSymbol? t with
  | some symbol => some symbol
  | none => Docstring.parseOption t.outerDoc? t.render

end Module

end Schematic
