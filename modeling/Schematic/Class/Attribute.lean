import Schematic.Class.Environment

/-!
# Attributes of classes

Which names a class answers to: those that its own body binds, those of its
bases, and a few that every class has. A name that is only annotated is bound
in a named tuple alone, where it is a field; a field of a dataclass stays bound
only if it has a default value, and a field of a model never does. Inside a
body, a name that starts with two underscores is known under a longer name,
which mentions the class.
-/

namespace Schematic

/-- Attributes of every class. -/
def commonAttributes : List String :=
  ["mro", "__annotations__", "__base__", "__bases__", "__basicsize__", "__call__", "__class__",
    "__delattr__", "__dict__", "__dictoffset__", "__dir__", "__doc__", "__eq__", "__flags__",
    "__format__", "__ge__", "__getattribute__", "__getstate__", "__gt__", "__hash__", "__init__",
    "__init_subclass__", "__instancecheck__", "__itemsize__", "__le__", "__lt__", "__module__",
    "__mro__", "__name__", "__ne__", "__new__", "__or__", "__prepare__", "__qualname__",
    "__reduce__", "__reduce_ex__", "__repr__", "__ror__", "__setattr__", "__sizeof__", "__str__",
    "__subclasscheck__", "__subclasses__", "__subclasshook__", "__text_signature__",
    "__weakrefoffset__"]

namespace ClassRef

def textAttributes : List String :=
  ["capitalize", "center", "count", "endswith", "expandtabs", "find", "index", "isalnum",
    "isalpha", "isascii", "isdigit", "islower", "isspace", "istitle", "isupper", "join", "ljust",
    "lower", "lstrip", "maketrans", "partition", "removeprefix", "removesuffix", "replace", "rfind",
    "rindex", "rjust", "rpartition", "rsplit", "rstrip", "split", "splitlines", "startswith",
    "strip", "swapcase", "title", "translate", "upper", "zfill"]

def immutableSetAttributes : List String :=
  ["copy", "difference", "intersection", "isdisjoint", "issubset", "issuperset",
    "symmetric_difference", "union"]

/-- Attributes of the built-in classes. -/
def builtinAttributes : String → List String
  | "str" => textAttributes ++ ["casefold", "encode", "format", "format_map", "isdecimal",
      "isidentifier", "isnumeric", "isprintable"]
  | "bytes" => textAttributes ++ ["decode", "fromhex", "hex"]
  | "int" | "bool" => ["as_integer_ratio", "bit_count", "bit_length", "conjugate", "denominator",
      "from_bytes", "imag", "numerator", "real", "to_bytes"]
  | "float" => ["as_integer_ratio", "conjugate", "fromhex", "hex", "imag", "is_integer", "real"]
  | "complex" => ["conjugate", "imag", "real"]
  | "list" => ["append", "clear", "copy", "count", "extend", "index", "insert", "pop", "remove",
      "reverse", "sort"]
  | "set" => immutableSetAttributes ++ ["add", "clear", "difference_update", "discard",
      "intersection_update", "pop", "remove", "symmetric_difference_update", "update"]
  | "frozenset" => immutableSetAttributes
  | "tuple" => ["count", "index"]
  | "dict" => ["clear", "copy", "fromkeys", "get", "items", "keys", "pop", "popitem", "setdefault",
      "update", "values"]
  | _ => []

/-- Attributes that a class which is not declared in the module adds to those of its bases. -/
def ownAttributes [ModelBase] : ClassRef → List String
  | builtin name => builtinAttributes name
  | library "BaseModel" => ModelBase.attributes ++ ModelBase.texts.map Prod.fst
  | library "enum.Enum" => ["__members__", "_generate_next_value_", "_missing_", "_new_member_",
      "_use_args_", "_member_names_", "_member_map_", "_value2member_map_", "_unhashable_values_",
      "_member_type_", "_value_repr_"]
  | _ => []

end ClassRef

namespace Declaration

/-- The name under which the body of a class knows a name. -/
def mangled (className name : String) : String :=
  let stem := String.ofList (className.toList.dropWhile (· = '_'))
  if name.startsWith "__" && !name.endsWith "__" && stem ≠ "" then "_" ++ stem ++ name else name

def knownAs (d : Declaration) (name : String) : String :=
  mangled d.name name

/-- Whether an annotated name of the flavour is bound, given its right side. -/
def bindsAnnotated : Flavour → Initial → Bool
  | .namedTuple, _ => true
  | .model, _ => false
  | .dataclass _, .field default _ _ _ => default.isSome
  | _, .none => false
  | _, _ => true

def statementNames (flavour : Flavour) : Statement → List String
  | .annotated name _ initial => if bindsAnnotated flavour initial then [name] else []
  | .assigned names _ => names
  | .method name => [name]
  | .nested name _ => [name]
  | .constant _ | .pass => []

/-- Attributes that come with the flavour. -/
def flavourAttributes : Flavour → List String
  | .namedTuple => ["_fields", "_field_defaults", "_make", "_replace", "_asdict"]
  | .dataclass _ => ["__dataclass_fields__", "__dataclass_params__", "__match_args__"]
  | _ => []

/-- The names that the class itself binds. -/
def ownAttributes (d : Declaration) : List String :=
  (d.body.flatMap (statementNames d.flavour)).map d.knownAs ++ flavourAttributes d.flavour

end Declaration

namespace Module

variable [ModelBase]

def ownAttributes (m : Module) (ref : ClassRef) : List String :=
  match m.class? ref with
  | some c => c.declaration.ownAttributes
  | none => ref.ownAttributes

/-- Whether a class or one of its bases has an attribute of its own. -/
def inheritsAttribute (m : Module) (line : List ClassRef) (name : String) : Bool :=
  commonAttributes.contains name || line.any fun base => (m.ownAttributes base).contains name

def hasAttribute (m : Module) (ref : ClassRef) (name : String) : Bool :=
  m.inheritsAttribute (m.linear ref) name

end Module

end Schematic
