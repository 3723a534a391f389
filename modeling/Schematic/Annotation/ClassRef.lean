import Schematic.Text.Quoted

/-!
# Names of classes

A reference to a class tells all that is needed to show it: where the class comes
from, its name, and the family it belongs to. The family decides which class the
class itself is an object of.
-/

namespace Schematic

/-- The families of declared classes, each with a class of its own that its classes belong to. -/
inductive Family where
  | ordinary
  | enumeration
  /-- An enumeration whose members are sets of bits. -/
  | flags
  | typedDict
  | model
  deriving DecidableEq, Repr, Inhabited

/-- A class, with all that is needed to show it. -/
inductive ClassRef where
  | builtin (name : String)
  /-- An abstract collection. -/
  | abstract (name : String)
  /-- The marker of a value that may be absent. -/
  | undefined
  | any
  /-- A base class of a library, by its full name. -/
  | library (name : String)
  /-- The class with the given number in the module of declarations. -/
  | declared (number : Nat) (qualname : String) (family : Family)
  deriving DecidableEq, Repr, Inhabited

namespace ClassRef

/-- Declared classes are told apart by their numbers alone. -/
def same : ClassRef → ClassRef → Bool
  | declared n _ _, declared m _ _ => n = m
  | a, b => a = b

def noneType : ClassRef := builtin "NoneType"
def object : ClassRef := builtin "object"

/-- The part of a dotted name after the last dot. -/
def lastPart (name : String) : String :=
  String.ofList ((name.toList.reverse.takeWhile (· ≠ '.')).reverse)

/-- The name of a class within its module. -/
def qualname : ClassRef → String
  | builtin name => name
  | abstract name => name
  | undefined => "Undefined"
  | any => "Any"
  | library name => lastPart name
  | declared _ qualname _ => qualname

/-- The name of a class with its module, unless it is built in. -/
def fullName : ClassRef → String
  | builtin name => name
  | abstract name => "collections.abc." ++ name
  | undefined => "docschema_core.type_model.python_types.Undefined"
  | any => "typing.Any"
  | library name => name
  | declared _ qualname _ => "m." ++ qualname

/-- The name of a class alone. -/
def name (ref : ClassRef) : String :=
  lastPart ref.qualname

def family : ClassRef → Family
  | declared _ _ family => family
  | library "BaseModel" => .model
  | library "enum.Flag" | library "enum.IntFlag" => .flags
  | library "enum.Enum" | library "enum.ReprEnum" | library "enum.IntEnum"
  | library "enum.StrEnum" => .enumeration
  | _ => .ordinary

/-- The class that a class belongs to. -/
def classOf : ClassRef → ClassRef
  | abstract _ => library "abc.ABCMeta"
  | any => library "typing._AnyMeta"
  | ref =>
    match ref.family with
    | .ordinary => builtin "type"
    | .enumeration | .flags => library "enum.EnumType"
    | .typedDict => library "typing._TypedDictMeta"
    | .model => library "pydantic._internal._model_construction.ModelMetaclass"

/-- A class as an object. -/
def display (ref : ClassRef) : List Char :=
  match ref.family with
  | .enumeration => "<enum ".toList ++ Text.quoted ref.name.toList ++ ['>']
  | .flags => "<flag ".toList ++ Text.quoted ref.name.toList ++ ['>']
  | _ => if ref = any then ref.fullName.toList
    else "<class ".toList ++ Text.quoted ref.fullName.toList ++ ['>']

end ClassRef

end Schematic
