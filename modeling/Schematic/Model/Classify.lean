import Schematic.Model.Basic
import Schematic.Text.Blank

/-!
# Classification

Every type falls into exactly one category, found by asking in a fixed order:
the primitive categories and literals, then unions, arrays, tuples, objects and
intersections. A type that says it is an enumeration is one if its union has a
string or number literal; otherwise it is a plain union.
-/

namespace Schematic

inductive Category where
  | string
  | stringLiteral
  | number
  | numberLiteral
  | boolean
  | booleanLiteral
  | null
  | undefined
  | enum
  | union
  | array
  | tuple
  | object
  | intersection
  | unsupported
  deriving DecidableEq, Repr

def Category.name : Category → String
  | string => "string"
  | stringLiteral => "string-literal"
  | number => "number"
  | numberLiteral => "number-literal"
  | boolean => "boolean"
  | booleanLiteral => "boolean-literal"
  | null => "null"
  | undefined => "undefined"
  | enum => "enum"
  | union => "union"
  | array => "array"
  | tuple => "tuple"
  | object => "object"
  | intersection => "intersection"
  | unsupported => "unsupported"

namespace TypeModel

variable {τ ι : Type}

/-- The categories that one flag decides, in order. -/
def flagCategories : List (Flag × Category) :=
  [(.string, .string), (.stringLiteral, .stringLiteral), (.number, .number),
    (.numberLiteral, .numberLiteral), (.boolean, .boolean), (.booleanLiteral, .booleanLiteral),
    (.null, .null), (.undefined, .undefined)]

def categoryOfFlags? (flags : Flags) : Option Category :=
  (flagCategories.find? fun entry => flags.contains entry.1).map Prod.snd

/-- The values of the string and number literals among some types. -/
def textAndNumberValues (model : TypeModel τ ι) : List τ → Except Failure (List Json)
  | [] => .ok []
  | type :: rest => do
    let flags ← model.flags type
    if flags.isTextOrNumber then
      let value ← model.literal type
      let values ← model.textAndNumberValues rest
      pure (value :: values)
    else model.textAndNumberValues rest

/-- The string and number values of a union. -/
def enumValues (model : TypeModel τ ι) (type : τ) : Except Failure (List Json) := do
  let flags ← model.flags type
  if flags.contains .union then model.textAndNumberValues (model.unionMembers type) else pure []

/-- The category of a type that is neither primitive nor a literal nor a union. -/
def classifyShape (model : TypeModel τ ι) (flags : Flags) (type : τ) : Except Failure Category := do
  if ← model.isArray type then pure .array
  else if model.isTuple type then pure .tuple
  else if flags.contains .object then pure .object
  else if flags.contains .intersection then pure .intersection
  else pure .unsupported

def classify (model : TypeModel τ ι) (type : τ) : Except Failure Category := do
  let flags ← model.flags type
  match categoryOfFlags? flags with
  | some category => pure category
  | none =>
    let values ← if flags.contains .enumLike then model.enumValues type else pure []
    if !values.isEmpty then pure .enum
    else if flags.contains .union then pure .union
    else model.classifyShape flags type

/-- Whether a boolean literal is true, which only its rendering tells. Case does not count. -/
def isTrueLiteral (model : TypeModel τ ι) (type : τ) : Bool :=
  (Text.trim (model.render type).toList).map Char.toLower = "true".toList

end TypeModel

end Schematic
