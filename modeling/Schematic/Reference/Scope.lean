import Schematic.Dict
import Schematic.Annotation.Object

/-!
# Scopes

A scope says what names mean and what is known about classes: their line of
bases, what their bodies bind, and the members of enumerations. The value of an
expression depends on nothing else. Within a comprehension or a function other
names are seen than around it, apart from those that it binds itself.
-/

namespace Schematic

/-- A parameter of the function that makes objects of a class. -/
structure Parameter where
  name : String
  default : Option Annotation
  keywordOnly : Bool
  /-- Whether the object keeps the argument. -/
  isStored : Bool

/-- The function that makes objects of a class from the values of their fields. -/
structure Initializer where
  name : String
  parameters : List Parameter
  /-- Whether the objects can be looked up in a hash table if their fields can. -/
  hasHash : Bool

structure Scope where
  find? : String → Option Annotation
  /-- Names as they are seen within comprehensions and functions. -/
  findWithin? : String → Option Annotation
  /-- A class and its bases, nearest first. -/
  line : ClassRef → List ClassRef
  /-- What the body of a class binds a name to. -/
  bound? : ClassRef → String → Option Annotation
  /-- Every name of an enumeration with the member it means. -/
  enumerators : ClassRef → Dict Value
  /-- The members of an enumeration, in order. -/
  listed : ClassRef → List Value
  /-- How an object of a class is made, if it has fields. -/
  initializer? : ClassRef → Option Initializer

namespace Scope

open Annotation (keysOf)

/-- The scope within a comprehension or a function. -/
def within (scope : Scope) : Scope :=
  { scope with find? := scope.findWithin? }

/-- The scope with a name bound. -/
def bind (scope : Scope) (name : String) (t : Annotation) : Scope :=
  { scope with
    find? := fun other => if other = name then some t else scope.find? other
    findWithin? := fun other => if other = name then some t else scope.findWithin? other }

/-- Binds names to objects in order. -/
def bindAll (scope : Scope) : List String → List Annotation → Scope
  | name :: names, t :: types => (scope.bind name t).bindAll names types
  | _, _ => scope

/-- Whether a class is derived from another one, or is that one. -/
def derives (scope : Scope) (ref base : ClassRef) : Bool :=
  (scope.line ref).any base.same

/-- The members of a single bit that a set of flags is made from, in order. -/
def bitsOf (scope : Scope) (owner : Enumeration) (n : Int) : List Value :=
  (scope.listed owner.ref).filter fun member =>
    match member.underlying with
    | .int bit => Nat.land bit.toNat n.toNat ≠ 0
    | _ => false

/-- The items that an object yields one by one, if it does. -/
def items? (scope : Scope) (t : Annotation) : Option (List Annotation) :=
  match t with
  | .cls ref =>
    if ref.family = .enumeration || ref.family = .flags then
      some ((scope.listed ref).map .value)
    else none
  | .generic (.cls _) _ =>
    let shown := '*' :: t.repr
    some [.opaqueObject (.library "types.GenericAlias") (String.ofList shown) true]
  | .mapping entries => some (keysOf entries)
  | .value (.member owner _ (.int n)) =>
    if owner.hasFlags then some ((scope.bitsOf owner n).map .value) else none
  | t =>
    match t.sequence?, t.set?, t.text?, t.bytes? with
    | some (_, items), _, _, _ => some items
    | _, some (_, items), _, _ => some items
    | _, _, some s, _ => some (s.toList.map fun c => .str (String.ofList [c]))
    | _, _, _, some s => some (s.toList.map fun c => .int c.toNat)
    | _, _, _, _ => none

/-- The failure of an object that looks like a collection and yields no items all the same. -/
def refusal? : Annotation → Option Failure
  | .synonym .. => some (.typeFault "Only generic type aliases are subscriptable")
  | _ => none

def notIterable (t : Annotation) : Failure :=
  .typeFault ("'" ++ t.className ++ "' object is not iterable")

def items (scope : Scope) (t : Annotation) : Except Failure (List Annotation) :=
  match scope.items? t with
  | some items => .ok items
  | none => .error ((refusal? t).getD (notIterable t))

/-- The items of a spread. -/
def spread (scope : Scope) (t : Annotation) : Except Failure (List Annotation) :=
  match scope.items? t, t with
  | some items, _ => .ok items
  | none, .union .named _ => .error (notIterable t)
  | none, t =>
    .error ((refusal? t).getD
      (.typeFault ("Value after * must be an iterable, not " ++ t.className)))

end Scope

end Schematic
