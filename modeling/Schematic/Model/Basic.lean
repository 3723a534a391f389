import Schematic.Doc.Symbol
import Schematic.Json.Basic
import Schematic.Log

/-!
# Type models

The compiler never looks into a type. Whatever it needs to know it asks a type
model: the documentation, the categories, the value of a literal, the members of
a union or a struct, the element of an array, a name to show, and an identity by
which a struct is recognized when it is reached again. Categories overlap; an
array, for instance, is also an object.
-/

namespace Schematic

/-- A category that a type belongs to. -/
inductive Flag where
  | string
  | stringLiteral
  | number
  | numberLiteral
  | boolean
  | booleanLiteral
  | null
  | undefined
  | enumLike
  | union
  | object
  | intersection
  deriving DecidableEq, Repr

abbrev Flags := List Flag

/-- Whether the type is a literal of a kind that may stand in an enumeration. -/
def Flags.isLiteral (flags : Flags) : Bool :=
  flags.contains .stringLiteral || flags.contains .numberLiteral || flags.contains .booleanLiteral

/-- Whether the type is a string or number literal. -/
def Flags.isTextOrNumber (flags : Flags) : Bool :=
  flags.contains .stringLiteral || flags.contains .numberLiteral

/-- A named member of a struct. -/
structure Member (τ : Type) where
  name : String
  type : τ
  optional : Bool
  symbol : Option Symbol

/-- The questions that can be asked about types `τ`, with identities `ι`. -/
structure TypeModel (τ ι : Type) where
  symbol : τ → Option Symbol
  flags : τ → Except Failure Flags
  /-- The value of a literal type. -/
  literal : τ → Except Failure Json
  /-- The members of a union or an enumeration, in order of declaration. -/
  unionMembers : τ → List τ
  isArray : τ → Except Failure Bool
  /-- The element type of an array, if it is known. -/
  element? : τ → Option τ
  isTuple : τ → Bool
  /-- The members of a struct, in order of declaration. -/
  members : τ → Logged (List (Member τ))
  render : τ → String
  identity : τ → ι
  /-- A bound on the nesting of any type of the model, structs not being entered twice. -/
  depth : τ → Nat

end Schematic
