import Schematic.Annotation.Basic

/-!
# Expressions of annotations

The text of a reference is an expression. Most are names, attributes, parameters
in brackets and alternatives between bars; but an expression may compute its
object in any way, from constants, collections, operators, conditions and calls.
A spread in a collection or in a call stands for the items of its content. The
entries of a mapping are given by their keys and values in turn, and a key that
is a spread stands for all entries of its content.
-/

namespace Schematic

inductive UnaryOperator where
  | negate
  | affirm
  | invert
  | not
  deriving DecidableEq, Repr

inductive BinaryOperator where
  | add
  | subtract
  | multiply
  | matrixMultiply
  | divide
  | floorDivide
  | remainder
  | power
  | shiftLeft
  | shiftRight
  | bitAnd
  | bitXor
  | bitOr
  deriving DecidableEq, Repr

inductive Comparison where
  | less
  | lessOrEqual
  | greater
  | greaterOrEqual
  | equal
  | unequal
  | identical
  | distinct
  | contained
  | missing
  deriving DecidableEq, Repr

/-- The parameters of a function, by the arguments that they take. -/
structure Signature where
  /-- Those that take arguments by position alone. -/
  placed : List String
  /-- Those that take them by position or by name. -/
  flexible : List String
  /-- The one that takes all further arguments by position. -/
  surplus : Option String
  /-- Those that take arguments by name alone. -/
  named : List String
  /-- The one that takes all further arguments by name. -/
  remaining : Option String
  /-- Those that have a default value. -/
  optional : List String
  deriving DecidableEq, Repr

/-- What a comprehension builds. -/
inductive Yield where
  | list
  | set
  | mapping
  | generator
  deriving DecidableEq, Repr

inductive Expression where
  | name (name : String)
  | constant (value : Value)
  | ellipsis
  | selection (owner : Expression) (name : String)
  | subscript (owner index : Expression)
  | slice (lower upper step : Expression)
  | collection (shape : Shape) (items : List Expression)
  | mapping (entries : List Expression)
  | spread (content : Expression)
  | unary (operator : UnaryOperator) (operand : Expression)
  | binary (operator : BinaryOperator) (left right : Expression)
  /-- Operands with a comparison between each two neighbours, all of which have to hold. -/
  | comparison (operators : List Comparison) (operands : List Expression)
  | conjunction (left right : Expression)
  | disjunction (left right : Expression)
  | conditional (test positive negative : Expression)
  | call (function : Expression) (args : List Expression)
  /-- An argument by name; without a name, a mapping of such arguments. -/
  | keyword (name : Option String) (content : Expression)
  /-- A function with the default values of its optional parameters, in order. -/
  | lambda (signature : Signature) (defaults : List Expression) (body : Expression)
  /-- The clauses of a comprehension, and last the element that they yield. -/
  | comprehension (yielded : Yield) (steps : List Expression)
  | clause (targets : List String) (source : Expression) (conditions : List Expression)
  /-- A text with fields, from its parts in order. -/
  | formatted (parts : List Expression)
  /-- A field of a text, with a conversion and a format, which is a text itself. -/
  | field (content : Expression) (conversion : Option Char) (format : List Expression)
  deriving Inhabited

end Schematic
