import Schematic.Class.Enumeration

/-!
# What classes bind

A class binds the names that its body assigns, the methods and the classes in it,
and what comes with its flavour. A built-in class binds its methods and parts.
-/

namespace Schematic

namespace Statement

/-- A function of a class. -/
def functionObject : Annotation :=
  .opaqueObject (.builtin "function") "<function>" true

/-- What a statement binds a name to. -/
def bound? (name : String) : Statement → Option Annotation
  | annotated own _ (.value value) => if own = name then some (.value value) else none
  | annotated own _ (.field (some value) _ _ _) => if own = name then some (.value value) else none
  | assigned names value => if names.contains name then some (.value value) else none
  | nested own t => if own = name then some t else none
  | method own => if own = name then some functionObject else none
  | _ => none

end Statement

namespace ClassRef

/-- Attributes of numbers that are no methods. -/
def numberParts : List String :=
  ["real", "imag", "numerator", "denominator"]

/-- Attributes of every object that stand for its operators. -/
def commonOperators : List String :=
  ["__delattr__", "__eq__", "__ge__", "__getattribute__", "__gt__", "__hash__", "__init__",
    "__le__", "__lt__", "__ne__", "__repr__", "__setattr__", "__str__"]

/-- Attributes of every object that are methods. -/
def commonMethods : List String :=
  ["__dir__", "__format__", "__getstate__", "__reduce__", "__reduce_ex__", "__sizeof__"]

/-- A method of a built-in class, seen from the class. -/
def methodOf (own name : String) : Annotation :=
  .opaqueObject (builtin "method_descriptor")
    ("<method '" ++ name ++ "' of '" ++ own ++ "' objects>") true

/-- What a built-in class binds a name to. -/
def builtinAttribute? (ref : ClassRef) (name : String) : Option Annotation :=
  match ref with
  | builtin "object" =>
    if commonOperators.contains name then
      some (.opaqueObject (builtin "wrapper_descriptor")
        ("<slot wrapper '" ++ name ++ "' of 'object' objects>") true)
    else if commonMethods.contains name then some (methodOf "object" name)
    else none
  | builtin "bool" => none
  | builtin own =>
    if !(builtinAttributes own).contains name then none
    else if numberParts.contains name then
      some (.opaqueObject (builtin "getset_descriptor")
        ("<attribute '" ++ name ++ "' of '" ++ own ++ "' objects>") true)
    else some (methodOf own name)
  | _ => none

end ClassRef

namespace Declaration

/-- The field of a named tuple, as an attribute of its class. -/
def tupleField? (d : Declaration) (name : String) : Option Annotation :=
  let names := d.body.filterMap fun statement =>
    match statement with
    | .annotated own _ _ => some own
    | _ => none
  match d.flavour with
  | .namedTuple =>
    if name = "_fields" then some (.tuple (names.map Annotation.str))
    else (names.findIdx? (· = name)).map fun place =>
      let number := toString place
      .opaqueObject (.library "collections._tuplegetter")
        ("_tuplegetter(" ++ number ++ ", 'Alias for field number " ++ number ++ "')") true
  | _ => none

/-- The function that fills the fields of a new object, which dataclasses and tuples have. -/
def initializer? (d : Declaration) (name : String) : Option Annotation :=
  match d.flavour, name with
  | .dataclass _, "__init__" | .namedTuple, "__new__" => some Statement.functionObject
  | _, _ => none

/-- What the body of a class binds a name to; the fields of a model are not bound. -/
def bodyObject? (d : Declaration) (name : String) : Option Annotation :=
  ((d.tupleField? name).or (d.initializer? name)).or (d.body.reverse.findSome? fun statement =>
    match d.flavour, statement with
    | .model, .annotated .. => none
    | _, statement => statement.bound? name)

end Declaration

namespace Module

/-- An annotation as it was written: a reference is the text that it follows. -/
def written : Annotation → Annotation
  | .forward text => .str text
  | t => t

/-- The annotations of a class by name, as one object. -/
def annotationObject? (c : Class) : Option Annotation :=
  if c.annotations.isEmpty then none
  else some (.mapping (c.annotations.flatMap fun (name, t) => [.str name, written t]))

/-- What a declared class binds a name to. -/
def declaredObject? (c : Class) (name : String) : Option Annotation :=
  if name = "__annotations__" then annotationObject? c else c.declaration.bodyObject? name

/-- What a class itself binds a name to. -/
def bodyObject? (m : Module) (ref : ClassRef) (name : String) : Option Annotation :=
  match Dict.get? name (m.enumerators ref), m.class? ref with
  | some member, _ => some (.value member)
  | none, some c => declaredObject? c name
  | none, none => ref.builtinAttribute? name

/-- What a class or one of its bases binds a name to. -/
def boundAlong? (m : Module) (line : List ClassRef) (name : String) : Option Annotation :=
  line.findSome? fun base => m.bodyObject? base name

end Module

end Schematic
