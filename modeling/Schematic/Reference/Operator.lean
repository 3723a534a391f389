import Schematic.Reference.Alternative
import Schematic.Reference.FlagSet
import Schematic.Reference.Template

/-!
# Operators

An operator is tried on its operands as sets of flags, as a template and its
objects, as numbers, as sequences and sets, as mappings, and for a bar as types,
in this order. Sequences of one
kind are joined and repeated. Where nothing fits, the failure names the classes
of both operands; a sequence on the left of a sum or a product takes it on
itself.
-/

namespace Schematic

namespace UnaryOperator

def symbol : UnaryOperator → String
  | negate => "-"
  | affirm => "+"
  | invert => "~"
  | not => "not"

end UnaryOperator

namespace BinaryOperator

def symbol : BinaryOperator → String
  | add => "+"
  | subtract => "-"
  | multiply => "*"
  | matrixMultiply => "@"
  | divide => "/"
  | floorDivide => "//"
  | remainder => "%"
  | power => "** or pow()"
  | shiftLeft => "<<"
  | shiftRight => ">>"
  | bitAnd => "&"
  | bitXor => "^"
  | bitOr => "|"

end BinaryOperator

namespace Operator

open Annotation

/-- The failure of an operator that fits neither operand. -/
def unsupported (operator : BinaryOperator) (a b : Annotation) : Failure :=
  .typeFault ("unsupported operand type(s) for " ++ operator.symbol ++ ": '" ++ a.className ++
    "' and '" ++ b.className ++ "'")

/-! ## Sequences -/

/-- A sequence joined with another object. -/
def joined? (a b : Annotation) : Option (Except Failure Annotation) :=
  match a.text?, b.text?, a.bytes?, b.bytes?, a.sequence?, b.sequence? with
  | some s, some t, _, _, _, _ => some (.ok (.str (s ++ t)))
  | some _, none, _, _, _, _ =>
    some (.error (.typeFault ("can only concatenate str (not \"" ++ b.className ++ "\") to str")))
  | _, _, some s, some t, _, _ => some (.ok (.value (.bytes (s ++ t))))
  | _, _, some _, none, _, _ =>
    some (.error (.typeFault ("can't concat " ++ b.className ++ " to bytes")))
  | _, _, _, _, some (shape, items), other =>
    match other with
    | some (shape', items') =>
      if shape = shape' then some (.ok (collectionOf shape (items ++ items')))
      else some (.error (notJoined shape))
    | none => some (.error (notJoined shape))
  | _, _, _, _, _, _ => none
where
  notJoined (shape : Shape) : Failure :=
    .typeFault ("can only concatenate " ++ shape.name ++ " (not \"" ++ b.className ++ "\") to " ++
      shape.name)

/-- So many copies of some items in a row. -/
def copies {α : Type} (count : Int) (items : List α) : Except Failure (List α) :=
  if Arithmetic.sizeBound < count.toNat * items.length then .error .unbounded
  else .ok (List.replicate count.toNat items).flatten

/-- A sequence repeated, if the object is one. -/
def repeated? (t : Annotation) (count : Int) : Option (Except Failure Annotation) :=
  match t.text?, t.bytes?, t.sequence? with
  | some s, _, _ => some ((copies count s.toList).map fun cs => .str (String.ofList cs))
  | _, some s, _ =>
    some ((copies count s.toList).map fun cs => .value (.bytes (String.ofList cs)))
  | _, _, some (shape, items) => some ((copies count items).map (collectionOf shape))
  | _, _, none => none

def isSequence (t : Annotation) : Bool :=
  (repeated? t 0).isSome

/-- The product of a sequence and a number, in either order. -/
def multiplied? (a b : Annotation) : Option (Except Failure Annotation) :=
  let notCount (t : Annotation) : Failure :=
    .typeFault ("can't multiply sequence by non-int of type '" ++ t.className ++ "'")
  match isSequence a, isSequence b, a.index?, b.index? with
  | true, _, _, some count => repeated? a count
  | true, _, _, none => some (.error (notCount b))
  | _, true, some count, _ => repeated? b count
  | _, true, none, _ => some (.error (notCount a))
  | _, _, _, _ => none

/-! ## Sets and mappings -/

/-- Operations on sets; the result is of the kind of the left one. -/
def onSets? (operator : BinaryOperator) (a b : Annotation) :
    Option (Except Failure Annotation) := do
  let (shape, xs) ← a.set?
  let (_, ys) ← b.set?
  let inBoth := xs.filter (anySame ys)
  let onlyLeft := xs.filter fun x => !anySame ys x
  let onlyRight := ys.filter fun y => !anySame xs y
  match operator with
  | .bitAnd => some (.ok (collection shape inBoth))
  | .bitOr => some (.ok (collection shape (xs ++ onlyRight)))
  | .bitXor => some (.ok (collection shape (onlyLeft ++ onlyRight)))
  | .subtract => some (.ok (collection shape onlyLeft))
  | _ => none

def onMappings? (operator : BinaryOperator) (a b : Annotation) :
    Option (Except Failure Annotation) :=
  match operator, a, b with
  | .bitOr, .mapping xs, .mapping ys => some (.ok (.mapping (overlay xs ys)))
  | _, _, _ => none

/-! ## All operands -/

def onValues? (operator : BinaryOperator) (a b : Annotation) : Option (Except Failure Annotation) :=
  match a, b with
  | .value a, .value b => (Arithmetic.onValues operator a b).map fun result => result.map .value
  | _, _ => none

def onSequences? (operator : BinaryOperator) (a b : Annotation) :
    Option (Except Failure Annotation) :=
  match operator with
  | .add => joined? a b
  | .multiply => multiplied? a b
  | _ => none

def onTypes? (operator : BinaryOperator) (a b : Annotation) : Option (Except Failure Annotation) :=
  match operator with
  | .bitOr => alternatives? a b
  | _ => none

/-- The result of a binary operator. -/
def binary (scope : Scope) (operator : BinaryOperator) (a b : Annotation) :
    Except Failure Annotation :=
  let attempts : List (Unit → Option (Except Failure Annotation)) :=
    [fun _ => FlagSet.combined? scope operator a b, fun _ => Template.onText? scope operator a b,
      fun _ => onValues? operator a b, fun _ => onSequences? operator a b,
      fun _ => onSets? operator a b, fun _ => onMappings? operator a b,
      fun _ => onTypes? operator a b]
  (attempts.findSome? fun attempt => attempt ()).getD (.error (unsupported operator a b))

/-- The failure of a sign that does not fit its operand. -/
def badOperand (operator : UnaryOperator) (t : Annotation) : Failure :=
  .typeFault ("bad operand type for unary " ++ operator.symbol ++ ": '" ++ t.className ++ "'")

/-- The result of a unary operator. -/
def unary (scope : Scope) (operator : UnaryOperator) (t : Annotation) : Except Failure Annotation :=
  match operator, t, FlagSet.owner? t with
  | .not, t, _ => .ok (.bool !t.isTrue)
  | .invert, .value (.member _ _ (.int n)), some owner => FlagSet.inverted scope owner n
  | operator, .value v, _ =>
    match v.quantity?.bind (Arithmetic.signed operator) with
    | some result => .ok (.value result)
    | none => .error (badOperand operator (.value v))
  | operator, t, _ => .error (badOperand operator t)

end Operator

end Schematic
