import Schematic.Reference.Arithmetic
import Schematic.Reference.Scope

/-!
# Attributes

A class answers to its own name and to what its body and its bases bind. A member
of an enumeration has a name and a value, and knows the other members. Numbers
have their parts, aliases and new types what they stand for, and parameterized
classes their parameters.
-/

namespace Schematic.Selection

open Annotation

/-- How an owner without a wanted attribute is called. -/
def ownerName : Annotation → String
  | .cls ref => "type object '" ++ ref.name ++ "'"
  | t => "'" ++ t.className ++ "' object"

/-- The module that a class comes from. -/
def moduleName (ref : ClassRef) : String :=
  let full := ref.fullName
  if full = ref.qualname then "builtins"
  else String.ofList (full.toList.take (full.length - ref.qualname.length - 1))

/-- What a member of an enumeration has besides what its class binds. -/
def memberAttribute? (member : Value) (name : String) : Option Annotation :=
  match member, name with
  | .member _ _ v, "value" | .member _ _ v, "_value_" => some (ofValue v)
  | .member _ own _, "name" | .member _ own _, "_name_" =>
    some ((own.map Annotation.str).getD .noneValue)
  | _, _ => none

/-- Attributes that every class has in its own right. -/
def classAttribute? (scope : Scope) (ref : ClassRef) (name : String) : Option Annotation :=
  match name with
  | "__name__" => some (.str ref.name)
  | "__qualname__" => some (.str ref.qualname)
  | "__module__" => some (.str (moduleName ref))
  | "__mro__" => some (.tuple ((scope.line ref).map .cls))
  | "__members__" | "_member_map_" => membersOf fun members =>
    .mapping (members.flatMap fun (own, member) => [.str own, .value member])
  | "_member_names_" => membersOf fun _ =>
    collectionOf .list ((scope.listed ref).filterMap (memberAttribute? · "name"))
  | _ => none
where
  membersOf (view : Dict Value → Annotation) : Option Annotation :=
    if ref.family = .enumeration || ref.family = .flags then some (view (scope.enumerators ref))
    else none

/-- An attribute of a class. -/
def ofClass (scope : Scope) (ref : ClassRef) (name : String) : Except Failure Annotation :=
  match (classAttribute? scope ref name).or
      ((scope.line ref).findSome? (scope.bound? · name)) with
  | some t => .ok t
  | none =>
    if ref.family ≠ .ordinary && ref.family ≠ .typedDict then .error (.noMember name)
    else .error (.noAttribute (ownerName (.cls ref)) name)

/-- The parts of a number. -/
def numberPart? (v : Value) (name : String) : Option Value :=
  match v.quantity?, name with
  | some (.integer n), "real" | some (.integer n), "numerator" => some (.int n)
  | some (.integer _), "imag" => some (.int 0)
  | some (.integer _), "denominator" => some (.int 1)
  | some (.real x), "real" | some (.complex x _), "real" => some (.float x)
  | some (.real _), "imag" => some (.float (.zero false))
  | some (.complex _ y), "imag" => some (.float y)
  | _, _ => none

/-- What a method, an operator or a part of a built-in class knows of itself, seen from the class. Its
form shows its name and the class between quotes. -/
def descriptorAttribute? (shown name : String) : Option Annotation :=
  match shown.splitOn "'", name with
  | [_, own, _, _, _], "__name__" => some (.str own)
  | [_, own, _, owner, _], "__qualname__" => some (.str (owner ++ "." ++ own))
  | [_, _, _, owner, _], "__objclass__" => some (.cls (.builtin owner))
  | _, _ => none

/-- The classes of methods, operators and parts of built-in classes. -/
def descriptorClasses : List String :=
  ["method_descriptor", "wrapper_descriptor", "getset_descriptor"]

/-- An attribute that belongs to an object itself. -/
def ownAttribute? (t : Annotation) (name : String) : Option Annotation :=
  match t, name with
  | .synonym _ _ inner, "__value__" | .newType _ _ inner, "__supertype__" => some inner
  | .synonym _ own _, "__name__" | .newType _ own _, "__name__" => some (.str own)
  | .newType _ own _, "__qualname__" => some (.str own)
  | .synonym .., "__module__" | .newType .., "__module__" => some (.str "m")
  | .synonym .., "__type_params__" | .synonym .., "__parameters__" => some (.tuple [])
  | .generic base _, "__origin__" => some (.cls base.origin)
  | .generic .., "__parameters__" | .union .., "__parameters__" => some (.tuple [])
  | .generic _ args, "__args__" | .union _ args, "__args__" => some (.tuple args)
  | .function own, "__name__" | .function own, "__qualname__" => some (.str own)
  | .function _, "__module__" => some (.str "builtins")
  | .opaqueObject (.builtin kind) shown _, name =>
    if descriptorClasses.contains kind then descriptorAttribute? shown name else none
  | .value v, name => memberAttribute? v name
  | _, _ => none

/-- Attributes for which a parameterized class does not stand in for the class itself. -/
def ownOfParameterized : List String :=
  ["__unpacked__", "__typing_unpacked_tuple_args__", "__mro_entries__", "__reduce_ex__",
    "__reduce__", "__copy__", "__deepcopy__"]

/-- What the class of a value binds a name to, seen from the value. -/
def boundIn? (scope : Scope) (ref : ClassRef) (name : String) : Option Annotation :=
  (scope.line ref).findSome? (scope.bound? · name)

/-- An attribute of an object. -/
def select (scope : Scope) (owner : Annotation) (name : String) : Except Failure Annotation :=
  let missing : Except Failure Annotation := .error (.noAttribute (ownerName owner) name)
  if name = "__class__" then .ok (.cls owner.classOf)
  else
    match ownAttribute? owner name, owner with
    | some t, _ => .ok t
    | none, .cls ref => ofClass scope ref name
    | none, .generic (.cls ref) _ =>
      if ownOfParameterized.contains name then missing else ofClass scope ref name
    | none, .union .named _ => .error (.noMember name)
    | none, .value v =>
      match numberPart? v name, boundIn? scope owner.classOf name with
      | some part, _ => .ok (.value part)
      | none, some t => .ok t
      | none, none => missing
    | none, owner =>
      match boundIn? scope owner.classOf name with
      | some t => .ok t
      | none => missing

end Schematic.Selection
