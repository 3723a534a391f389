import Schematic.Annotation.Build
import Schematic.Error

/-!
# Classes

A class is declared by its bases and the statements of its body. Declared
classes are numbered in the order of their declaration, a nested class before
the one around it; a module holds them together with the names it binds. What a
class takes from its bases is fixed when it is declared and kept with it: its
linearization, its annotations, and the fields or keys of its records.
-/

namespace Schematic

/-- What the source text of a class shows. -/
inductive Source where
  /-- The text is that of the declaration. -/
  | faithful
  | unavailable
  | malformed
  /-- The text holds no class. -/
  | classless
  deriving DecidableEq, Repr, Inhabited

/-- The right side of an annotated name. -/
inductive Initial where
  | none
  | value (value : Value)
  /-- A field description, with a default value or a factory of defaults, if any. -/
  | field (default : Option Value) (factory : Bool) (publicName description : Option String)
  deriving Inhabited

inductive Statement where
  | annotated (name : String) (type : Annotation) (initial : Initial)
  | assigned (names : List String) (value : Value)
  /-- A constant that stands alone, such as a documentation text. -/
  | constant (value : Value)
  | method (name : String)
  | nested (name : String) (type : Annotation)
  | pass
  deriving Inhabited

/-- The manner in which a class is declared. -/
inductive Flavour where
  | plain
  /-- A dataclass, whose fields may be for keywords only. -/
  | dataclass (keywordOnly : Bool)
  /-- A dictionary with typed keys, which are required if it is total. -/
  | typedDict (total : Bool)
  | model
  | enumeration
  | namedTuple
  deriving DecidableEq, Repr, Inhabited

structure Declaration where
  name : String
  flavour : Flavour
  bases : List ClassRef
  doc : Option String
  body : List Statement
  source : Source
  deriving Inhabited

/-- What an annotated name of a dataclass stands for. -/
inductive FieldRole where
  | stored
  | shared
  | parameter
  deriving DecidableEq, Repr

/-- A field of a dataclass. -/
structure DataField where
  role : FieldRole
  type : Annotation
  optional : Bool
  keywordOnly : Bool

/-- A field of a model, its type being resolved. -/
structure ModelField where
  type : Annotation
  optional : Bool
  /-- The name that the field goes by outside the model. -/
  publicName : Option String
  description : Option String

structure Class where
  declaration : Declaration
  qualname : String
  /-- The class itself, then its bases. -/
  linear : List ClassRef
  /-- Annotations by name; those of a typed dictionary include its bases' ones. -/
  annotations : Dict Annotation
  /-- Keys that some declaration of them makes optional. -/
  optionalKeys : List String
  /-- Fields of a dataclass that is declared as one. -/
  dataFields : Option (Dict DataField)
  modelFields : Option (Dict ModelField)
  /-- Every name of an enumeration with the member it means; other classes have none. -/
  enumerators : Dict Value
  deriving Inhabited

structure Module where
  classes : List Class
  names : Dict Annotation
  /-- How many aliases and new types there are. -/
  named : Nat
  deriving Inhabited

namespace ClassRef

/-- The base class of models. -/
def model : ClassRef := library "BaseModel"
def enumeration : ClassRef := library "enum.Enum"
def flagEnumeration : ClassRef := library "enum.Flag"

/-- The bases of an enumeration class of the library. -/
def enumerationBases : String → List ClassRef
  | "enum.ReprEnum" => [enumeration]
  | "enum.IntEnum" => [builtin "int", library "enum.ReprEnum", enumeration]
  | "enum.StrEnum" => [builtin "str", library "enum.ReprEnum", enumeration]
  | "enum.Flag" => [enumeration]
  | "enum.IntFlag" => [builtin "int", library "enum.ReprEnum", flagEnumeration, enumeration]
  | _ => []

/-- The bases of an abstract collection. -/
def collectionBases : String → List String
  | "Coroutine" => ["Awaitable"]
  | "AsyncIterator" => ["AsyncIterable"]
  | "AsyncGenerator" => ["AsyncIterator", "AsyncIterable"]
  | "Iterator" => ["Iterable"]
  | "Generator" => ["Iterator", "Iterable"]
  | "Reversible" => ["Iterable"]
  | "Collection" => ["Sized", "Iterable", "Container"]
  | "Set" | "Mapping" => ["Collection", "Sized", "Iterable", "Container"]
  | "MutableSet" => ["Set", "Collection", "Sized", "Iterable", "Container"]
  | "MutableMapping" => ["Mapping", "Collection", "Sized", "Iterable", "Container"]
  | "MappingView" => ["Sized"]
  | "KeysView" | "ItemsView" =>
    ["MappingView", "Set", "Collection", "Sized", "Iterable", "Container"]
  | "ValuesView" => ["MappingView", "Collection", "Sized", "Iterable", "Container"]
  | "Sequence" => ["Reversible", "Collection", "Sized", "Iterable", "Container"]
  | "MutableSequence" | "ByteString" =>
    ["Sequence", "Reversible", "Collection", "Sized", "Iterable", "Container"]
  | _ => []

/-- The bases of a class that is not declared in the module, nearest first. -/
def bases : ClassRef → List ClassRef
  | builtin "object" => []
  | builtin "bool" => [builtin "int", object]
  | library name => enumerationBases name ++ [object]
  | abstract name => (collectionBases name).map abstract ++ [object]
  | _ => [object]

end ClassRef

namespace Module

def empty : Module := ⟨[], [], 0⟩

/-- The declared class that a reference means. -/
def class? (m : Module) : ClassRef → Option Class
  | .declared number _ _ => m.classes[number]?
  | _ => none

/-- A class and its bases, nearest first. -/
def linear (m : Module) (ref : ClassRef) : List ClassRef :=
  match m.class? ref with
  | some c => c.linear
  | none => ref :: ref.bases

/-- Whether a class is derived from another one, or is that one. -/
def derives (m : Module) (ref base : ClassRef) : Bool :=
  (m.linear ref).any base.same

def isModel (m : Module) (ref : ClassRef) : Bool :=
  m.derives ref .model

def isEnumeration (m : Module) (ref : ClassRef) : Bool :=
  m.derives ref .enumeration

/-- Every name of an enumeration with the member it means. -/
def enumerators (m : Module) (ref : ClassRef) : Dict Value :=
  ((m.class? ref).map Class.enumerators).getD []

def isTypedDict (m : Module) (ref : ClassRef) : Bool :=
  ((m.class? ref).map fun c => c.declaration.flavour matches .typedDict _).getD false

/-- Whether a class fixes how its objects are laid out. -/
def isLayout (ref : ClassRef) : Bool :=
  (["int", "float", "complex", "str", "bytes", "list", "tuple", "dict", "set", "frozenset"].map
    ClassRef.builtin).contains ref

/-- The class that fixes how the objects of a class are laid out, if there is one. -/
def layout? (m : Module) (ref : ClassRef) : Option ClassRef :=
  (m.linear ref).find? isLayout

/-- The fields of a dataclass, or of the nearest dataclass that a class derives from. -/
def dataFields? (m : Module) (ref : ClassRef) : Option (Dict DataField) :=
  (m.linear ref).findSome? fun base => (m.class? base).bind Class.dataFields

def isDataclass (m : Module) (ref : ClassRef) : Bool :=
  (m.dataFields? ref).isSome

/-- The field that a model has for a name. -/
def fieldOf? (m : Module) (ref : ClassRef) (name : String) : Option ModelField :=
  ((m.class? ref).bind Class.modelFields).bind (Dict.get? name)

/-- The annotations in a class's own body; a class that is not declared here has none. -/
def annotations (m : Module) (ref : ClassRef) : Dict Annotation :=
  match m.class? ref with
  | some c => c.annotations
  | none => []

end Module

end Schematic
