import Schematic.Reference.Scope

/-!
# Brackets after an object

Brackets parameterize the classes of collections and those derived from them.
They look up the members of an enumeration by name, the entries of a mapping by
key, and the items of a sequence by position, from the end if negative, or by a
slice. Nothing that is parameterized already, and no alias, takes parameters.
-/

namespace Schematic.Subscript

open Annotation

/-- Built-in classes that take parameters, and whose derived classes do. -/
def parameterizedClasses : List ClassRef :=
  ["list", "set", "frozenset", "tuple", "dict", "enumerate", "BaseExceptionGroup",
    "ExceptionGroup"].map .builtin

/-- Several parameters are given as a tuple. -/
def parameters (index : Annotation) : List Annotation :=
  match index.sequence? with
  | some (.tuple, items) => items
  | _ => [index]

def isAbstract : ClassRef → Bool
  | .abstract _ => true
  | _ => false

def missing (key : Annotation) : Failure :=
  .missingKey (String.ofList key.display)

/-- The member of an enumeration by its name. -/
def memberOf (scope : Scope) (ref : ClassRef) (index : Annotation) :
    Except Failure Annotation := do
  let key ← index.hashed
  match key.text?.bind fun name => Dict.get? name (scope.enumerators ref) with
  | some member => pure (.value member)
  | none => .error (missing key)

/-- A class with parameters, or a member of the enumeration that it is. -/
def ofClass (scope : Scope) (ref : ClassRef) (index : Annotation) : Except Failure Annotation :=
  if ref.family = .enumeration || ref.family = .flags then memberOf scope ref index
  else if ref = .builtin "type" || isAbstract ref || parameterizedClasses.any (scope.derives ref)
  then .ok (genericOf (.cls ref) (parameters index))
  else if ref.family = .model then
    .error (.typeFault (String.ofList ref.display ++
      " cannot be parametrized because it does not inherit from typing.Generic"))
  else .error (.typeFault ("type '" ++ ref.name ++ "' is not subscriptable"))

/-! ## Positions and slices -/

/-- The bound that a slice gives, or the one that holds without it. -/
def bound (t : Annotation) : Except Failure (Option Int) :=
  match t with
  | .value .none => .ok none
  | t =>
    match t.index? with
    | some n => .ok (some n)
    | none =>
      .error (.typeFault "slice indices must be integers or None or have an __index__ method")

/-- A bound from the front, within the given limits. -/
def placed (length : Nat) (least greatest n : Int) : Int :=
  max least (min greatest (if n < 0 then n + length else n))

/-- The positions of a slice, in the order of its step. -/
def positions (length : Nat) (lower upper : Option Int) (step : Int) : List Nat :=
  let forward := decide (0 < step)
  let least : Int := if forward then 0 else -1
  let greatest : Int := if forward then length else (length : Int) - 1
  let first := (lower.map (placed length least greatest)).getD (if forward then 0 else greatest)
  let last := (upper.map (placed length least greatest)).getD (if forward then greatest else -1)
  let distance := if forward then last - first else first - last
  let count := if distance ≤ 0 then 0 else (distance - 1) / step.natAbs + 1
  (List.range count.toNat).map fun (k : Nat) => (first + k * step).toNat

/-- The items that a slice picks. -/
def sliced {α : Type} (items : List α) (lower upper step : Annotation) :
    Except Failure (List α) := do
  let step ← bound step
  let lower ← bound lower
  let upper ← bound upper
  if step = some 0 then .error .unacceptable
  else pure ((positions items.length lower upper (step.getD 1)).filterMap (items[·]?))

/-- The item at a position, which may be counted from the end. -/
def itemAt? {α : Type} (items : List α) (n : Int) : Option α :=
  let place := if n < 0 then n + items.length else n
  if place < 0 then none else items[place.toNat]?

/-- How a kind of sequence speaks of its indices. -/
structure Wording where
  wrongIndex : String
  outOfRange : String

def shapeWording (shape : Shape) : Wording :=
  ⟨shape.name ++ " indices must be integers or slices, not ", shape.name ++ " index out of range"⟩

/-- The item or the slice of a sequence; `one` and `many` make objects of what is picked. -/
def ofItems {α : Type} (items : List α) (wording : Wording) (quote : Bool) (one : α → Annotation)
    (many : List α → Annotation) (index : Annotation) : Except Failure Annotation :=
  match index, index.index? with
  | .collection .slice [lower, upper, step], _ => (sliced items lower upper step).map many
  | _, some n =>
    match itemAt? items n with
    | some item => .ok (one item)
    | none => .error (.outOfRange wording.outOfRange)
  | index, none =>
    let name := if quote then "'" ++ index.className ++ "'" else index.className
    .error (.typeFault (wording.wrongIndex ++ name))

def textWording : Wording :=
  ⟨"string indices must be integers, not ", "string index out of range"⟩

def bytesWording : Wording :=
  ⟨"byte indices must be integers or slices, not ", "index out of range"⟩

/-- The object that brackets after an object give. -/
def item (scope : Scope) (owner index : Annotation) : Except Failure Annotation :=
  match owner with
  | .cls ref => ofClass scope ref index
  | .generic .. | .union .. | .literal _ | .annotated .. | .qualified .. =>
    .error (.typeFault (String.ofList owner.repr ++ " is not a generic class"))
  | .synonym .. => .error (.typeFault "Only generic type aliases are subscriptable")
  | .mapping entries => do
    let key ← index.hashed
    match itemOf? key entries with
    | some t => pure t
    | none => .error (missing key)
  | owner =>
    match owner.text?, owner.bytes?, owner.sequence? with
    | some s, _, _ =>
      ofItems s.toList textWording true (fun c => .str (String.ofList [c]))
        (fun cs => .str (String.ofList cs)) index
    | none, some s, _ =>
      ofItems s.toList bytesWording false (fun c => .int c.toNat)
        (fun cs => .value (.bytes (String.ofList cs))) index
    | none, none, some (shape, items) =>
      ofItems items (shapeWording shape) false id (collectionOf shape) index
    | none, none, none =>
      .error (.typeFault ("'" ++ owner.className ++ "' object is not subscriptable"))

end Schematic.Subscript
