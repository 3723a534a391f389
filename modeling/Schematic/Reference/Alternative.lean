import Schematic.Annotation.Object
import Schematic.Reference.Reader

/-!
# Alternatives

A bar between two objects makes their union. Between classes, parameterized
classes, unions of these and `None`, the union is written with bars. A form that
is no class makes a named union with any object, but a tuple is no member of one,
and a text in one is a reference, which has to be an expression. An alias makes a
named union with what a bar takes for a type.
-/

namespace Schematic.Annotation

/-- Whether an object makes a named union with any other one. -/
def isForm : Annotation → Bool
  | union .named _ => true
  | literal _ => true
  | annotated .. => true
  | generic (.form _) _ => true
  | bare _ => true
  | newType .. => true
  | forward _ => true
  | qualified qualifier _ => qualifier ≠ .initVar
  | _ => false

def isSynonym : Annotation → Bool
  | synonym .. => true
  | _ => false

/-- The longest part of a shown tuple that is quoted in a message. -/
def shownLength : Nat := 100

/-- The failure of a tuple where a type is expected. -/
def notTypes (demand : String) (t : Annotation) : Failure :=
  .typeFault (String.ofList
    (demand.toList ++ " Got ".toList ++ t.display.take shownLength ++ ['.']))

def isTuple : Annotation → Bool
  | value (.tuple _) => true
  | collection .tuple _ => true
  | _ => false

/-- A type as an argument of a form: no tuple, and no text but an expression. -/
def checkedType (demand : String) (t : Annotation) : Except Failure Annotation :=
  if t.isTuple then .error (notTypes demand t)
  else
    match asType t with
    | forward text =>
      if (Expression.read? text).isSome then .ok (forward text) else .error .malformedExpression
    | t => .ok t

/-- The named union of two objects. -/
def namedUnionOf (a b : Annotation) : Except Failure Annotation := do
  let a ← checkedType "Union[arg, ...]: each arg must be a type." a
  let b ← checkedType "Union[arg, ...]: each arg must be a type." b
  pure (unionOf [a, b])

/-- The union of two objects, if a bar makes one. -/
def alternatives? (a b : Annotation) : Option (Except Failure Annotation) :=
  let isType (t : Annotation) : Bool := t.isPlainType || t.isNoneValue || t.isSynonym
  if a.isForm || b.isForm then some (namedUnionOf a b)
  else if isType a && isType b && !(a.isNoneValue && b.isNoneValue) then
    some (if a.isSynonym || b.isSynonym then namedUnionOf a b else .ok (or a b))
  else none

end Schematic.Annotation
