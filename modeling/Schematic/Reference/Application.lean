import Schematic.Annotation.Conversion
import Schematic.Reference.Construction
import Schematic.Reference.Function

/-!
# Calls

A new type gives back its argument, and an enumeration the member with a value.
The built-in classes convert. A call of any other class gives an object of that
class, and takes no arguments if nothing says what to do with them. An alias
cannot be called, nor can an object that is neither class nor function.
-/

namespace Schematic.Application

open Annotation
open Construction (Arguments count)

/-! ## Enumerations -/

/-- The enumeration that a class is, from one of its members. -/
def enumeration? (members : List Value) : Option Enumeration :=
  members.findSome? fun member =>
    match member with
    | .member owner _ _ => some owner
    | _ => none

/-- The member of an enumeration with a value. -/
def memberOf (scope : Scope) (ref : ClassRef) (t : Annotation) : Except Failure Annotation :=
  let members := (scope.enumerators ref).map Prod.snd
  if ref.same t.classOf then .ok t
  else
    match members.find? fun member => (value member.underlying).same t with
    | some member => .ok (.value member)
    | none =>
      match enumeration? members with
      | none =>
        .error (.typeFault (String.ofList ref.display ++ " has no members defined"))
      | some owner =>
        match owner.hasFlags, t.index? with
        | true, some n => (FlagSet.ofInteger owner members n).map .value
        | _, _ => .error .unacceptable

def ofEnumeration (scope : Scope) (ref : ClassRef) (args : Arguments) :
    Except Failure Annotation :=
  match args.positional, args.named with
  | [t], [] => memberOf scope ref t
  | _, named =>
    match Dict.get? "value" named with
    | some t => memberOf scope ref t
    | none =>
      .error (.typeFault "EnumType.__call__() missing 1 required positional argument: 'value'")

/-! ## Built-in classes -/

/-- The failure of an object that is no value as an argument of a class of plain values. -/
def notValue (name : String) (t : Annotation) : Failure :=
  match name with
  | "int" => Conversion.notInteger t.className
  | "float" => Conversion.notReal t.className
  | "complex" => Conversion.notComplex t.className
  | _ => .typeFault ("cannot convert '" ++ t.className ++ "' object to bytes")

/-- The conversion that a class of plain values stands for. -/
def conversion? : String → Option (List Value → Except Failure Value)
  | "int" => some Conversion.integer
  | "float" => some Conversion.real
  | "complex" => some Conversion.complex
  | "str" => some Conversion.text
  | "bytes" => some Conversion.bytes
  | _ => none

/-- The names of the parameters of a class of plain values; those without one go by position. -/
def parameterNames : String → List String
  | "int" => ["", "base"]
  | "complex" => ["real", "imag"]
  | "str" => ["object", "encoding", "errors"]
  | "bytes" => ["source", "encoding", "errors"]
  | _ => []

/-- The arguments in the order of the parameters, as long as each comes next. -/
def inOrder (name : String) (args : Arguments) : Except Failure (List Annotation) :=
  let names := parameterNames name
  let refused (own : String) : String :=
    if names.isEmpty then name ++ "() takes no keyword arguments"
    else "'" ++ own ++ "' is an invalid keyword argument for " ++ name ++ "()"
  args.named.foldlM (fun (placed : List Annotation) (own, t) =>
    if names[placed.length]? = some own then .ok (placed ++ [t])
    else .error (.typeFault (refused own))) args.positional

/-- What a class of plain values makes of arguments. -/
def converted (scope : Scope) (name : String) (convert : List Value → Except Failure Value)
    (args : Arguments) : Except Failure Annotation := do
  let args ← inOrder name args
  match args.mapM asValue?, args with
  | some values, _ => (convert values).map .value
  | none, t :: _ =>
    if name = "str" then pure (.str (String.ofList (Formatting.text t)))
    else
      match (scope.items? t).bind fun items => items.mapM asValue? with
      | some items =>
        if name = "bytes" then (convert [.list items]).map .value else .error (notValue name t)
      | none => .error (notValue name t)
  | none, [] => .error .unacceptable

/-- Arguments by name as the entries of a mapping. -/
def entriesOf (named : Dict Annotation) : List Annotation :=
  named.flatMap fun (name, t) => [.str name, t]

/-- Entries with a pair of a key and a value set. -/
def withPair (entries : List Annotation) : List Annotation → Except Failure (List Annotation)
  | [key, item] => do
    let key ← key.hashed
    pure (setEntry key item entries)
  | _ => .error .unacceptable

/-- The items of an object that stands for an entry. -/
def pairOf (scope : Scope) (place : Nat) (t : Annotation) : Except Failure (List Annotation) :=
  match scope.items? t with
  | some items => .ok items
  | none =>
    .error (.typeFault ("cannot convert dictionary update sequence element #" ++ toString place ++
      " to a sequence"))

/-- An object as a mapping: its entries, or pairs of a key and a value. -/
def entries (scope : Scope) (t : Annotation) : Except Failure (List Annotation) :=
  match t with
  | .mapping entries => .ok entries
  | t => do
    let items ← scope.items t
    let pairs ← items.zipIdx.mapM fun (item, place) => pairOf scope place item
    pairs.foldlM withPair []

/-- An object of a class of which nothing more is known. -/
def instanceOf (ref : ClassRef) : Annotation :=
  .opaqueObject ref (String.ofList ("<".toList ++ ref.fullName.toList ++ " object>".toList)) true

/-- A collection of a built-in class from the items of an object. -/
def collected (scope : Scope) (shape : Shape) (args : List Annotation) :
    Except Failure Annotation :=
  match args with
  | [] => .ok (collectionOf shape [])
  | [t] => do
    let items ← scope.items t
    match shape with
    | .set | .frozenset => setOf shape items
    | shape => pure (collectionOf shape items)
  | args =>
    .error (.typeFault (shape.name ++ " expected at most 1 argument, got " ++
      toString args.length))

/-- The entries of a mapping made from arguments. -/
def mappingEntries (scope : Scope) (args : Arguments) : Except Failure (List Annotation) :=
  match args.positional with
  | [] => .ok (entriesOf args.named)
  | [t] => (entries scope t).map fun own => overlay own (entriesOf args.named)
  | others =>
    .error (.typeFault ("dict expected at most 1 argument, got " ++ toString others.length))

/-- The object that a built-in class makes of arguments. -/
def ofBuiltin (scope : Scope) (name : String) (args : Arguments) : Except Failure Annotation :=
  match name, args.positional with
  | "type", [t] => .ok (.cls t.classOf)
  | "type", [] | "type", [_, _] => .error (.typeFault "type() takes 1 or 3 arguments")
  | "bool", [] => .ok (.bool false)
  | "bool", [t] => .ok (.bool t.isTrue)
  | "list", items => collected scope .list items
  | "tuple", items => collected scope .tuple items
  | "set", items => collected scope .set items
  | "frozenset", items => collected scope .frozenset items
  | "slice", [upper] => .ok (.collection .slice [.noneValue, upper, .noneValue])
  | "slice", [lower, upper] => .ok (.collection .slice [lower, upper, .noneValue])
  | "slice", [lower, upper, step] => .ok (.collection .slice [lower, upper, step])
  | "dict", _ => (mappingEntries scope args).map .mapping
  | name, _ =>
    match conversion? name with
    | some convert => converted scope name convert args
    | none => .ok (instanceOf (.builtin name))

/-! ## Declared classes -/

/-- Whether a class and its bases leave the making of objects to the root class. -/
def isBare (scope : Scope) (ref : ClassRef) : Bool :=
  (scope.line ref).all fun base =>
    base = .object || base = .undefined ||
      ((base matches .declared ..) && (scope.bound? base "__init__").isNone)

/-- Built-in classes whose derived classes make their objects in the same way. -/
def makers : List String :=
  ["list", "tuple", "set", "frozenset", "dict", "str", "int", "float"]

/-- An object of a class that is derived from a built-in one, if it is. One that is a text is known
by its characters alone. -/
def ofDerived? (scope : Scope) (ref : ClassRef) (args : Arguments) :
    Option (Except Failure Annotation) :=
  (makers.find? fun name => scope.derives ref (.builtin name)).map fun name => do
    let t ← ofBuiltin scope name args
    if name = "str" then pure t
    else pure (.opaqueObject ref (String.ofList t.display) t.isHashable)

/-- An object of a class without fields. -/
def ofPlain (scope : Scope) (ref : ClassRef) (args : Arguments) : Except Failure Annotation :=
  if 0 < count args && isBare scope ref then
    .error (.typeFault (ref.name ++ "() takes no arguments"))
  else
    match ref with
    | .builtin name => ofBuiltin scope name args
    | ref => (ofDerived? scope ref args).getD (.ok (instanceOf ref))

/-- The object that a class makes of arguments. -/
def ofClass (scope : Scope) (ref : ClassRef) (args : Arguments) : Except Failure Annotation :=
  match ref.family, scope.initializer? ref with
  | .enumeration, _ | .flags, _ => ofEnumeration scope ref args
  | .typedDict, _ => (mappingEntries scope args).map .mapping
  | .model, _ => .ok (instanceOf ref)
  | .ordinary, some initializer => Construction.object initializer ref args
  | .ordinary, none => ofPlain scope ref args

/-! ## Calls -/

/-- The object that a call gives. -/
def apply (scope : Scope) (function : Annotation) (args : Arguments) : Except Failure Annotation :=
  match function with
  | .cls ref => ofClass scope ref args
  | .generic (.cls ref) _ => ofClass scope ref args
  | .function name => Function.result scope name args.positional
  | .newType .. =>
    match args.positional, args.named with
    | [t], [] => .ok t
    | _, [] =>
      .error (.typeFault ("_typing._idfunc() takes exactly one argument (" ++
        toString args.positional.length ++ " given)"))
    | _, _ => .error (.typeFault "_typing._idfunc() takes no keyword arguments")
  | .synonym .. =>
    if args.positional.isEmpty then .error (.typeFault "Type alias is not callable")
    else
      .error (.typeFault ("TypeAliasType.__call__() takes 1 positional argument but " ++
        toString (args.positional.length + 1) ++ " were given"))
  | .union .named _ => .error (.typeFault "Cannot instantiate typing.Union")
  | function => .error (.typeFault ("'" ++ function.className ++ "' object is not callable"))

end Schematic.Application
