/-!
# Validation problems

A record that does not fit its declaration has problems, each at a place: a path
of field names and positions from the outside in.
-/

namespace Schematic

inductive Place where
  | field (name : String)
  | position (index : Nat)
  deriving DecidableEq, Repr

namespace Problem

inductive Kind where
  | stringType
  | stringTooShort
  | missing
  | extraForbidden
  | tupleType
  | modelType
  | intType
  | intParsing
  /-- A number with a fraction. -/
  | intFromFloat
  | finiteNumber
  | greaterThanEqual
  deriving DecidableEq, Repr

/-- The word by which a kind of problem is reported. -/
def Kind.code : Kind → String
  | stringType => "string_type"
  | stringTooShort => "string_too_short"
  | missing => "missing"
  | extraForbidden => "extra_forbidden"
  | tupleType => "tuple_type"
  | modelType => "model_type"
  | intType => "int_type"
  | intParsing => "int_parsing"
  | intFromFloat => "int_from_float"
  | finiteNumber => "finite_number"
  | greaterThanEqual => "greater_than_equal"

end Problem

structure Problem where
  location : List Place
  kind : Problem.Kind
  deriving DecidableEq, Repr

/-- The same problem seen from outside the given place. -/
def Problem.inside (place : Place) (problem : Problem) : Problem :=
  { problem with location := place :: problem.location }

end Schematic
