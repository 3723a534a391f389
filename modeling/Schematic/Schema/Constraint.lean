import Schematic.Log
import Schematic.Tag.Number
import Schematic.Tag.Value

/-!
# Constraints from tags

Documentation is laid over a schema node in one pass. Which validation keywords
a pass may set depends on the node's type as the pass finds it: ranges on
numbers, lengths and forms on strings, counts on arrays. A default applies to
every node, and a tag that is not recognized becomes an extension key. A numeric
tag without a usable number is dropped and the fact recorded.

A pass is a list of edits computed from the type, the tags and the description
alone; running them in order gives the node. An edit that fails leaves what the
edits before it have set.
-/

namespace Schematic

/-- The fields of a schema under construction. -/
abbrev Node := Dict Json

namespace Constraint

def numericTags : List String := ["minimum", "maximum", "multipleOf"]
def integerTag : String := "integer"
def lengthTags : List String := ["minLength", "maxLength"]
def formTags : List String := ["pattern", "format"]
def countTags : List String := ["minItems", "maxItems"]
def defaultTag : String := "default"

/-- The tags that a pass interprets; all others become extensions. -/
def recognizedTags : List String :=
  numericTags ++ [integerTag] ++ lengthTags ++ formTags ++ countTags ++ [defaultTag]

/-- The tag that leaves an optional member out of its struct. -/
def ignoreTag : String := "ignore"

def extensionKey (tag : String) : String :=
  "x-" ++ tag

inductive Edit where
  | set (key : String) (value : Json)
  | dropped (tag text : String)
  | failed (failure : Failure)

/-- What a node's type admits. -/
inductive Gate where
  | numeric
  | string
  | array
  | other
  deriving DecidableEq, Repr

/-- The gate of a node's type; a type that cannot be looked up fails. -/
def gate : Option Json → Except Failure Gate
  | some (.str "number") | some (.str "integer") => .ok .numeric
  | some (.str "string") => .ok .string
  | some (.str "array") => .ok .array
  | some (.arr _) => .error (.unhashable "list")
  | some (.obj _) => .error (.unhashable "dict")
  | _ => .ok .other

def describe : Option String → List Edit
  | some text => if text = "" then [] else [.set "description" (.str text)]
  | none => []

def numeric (tags : Dict String) (tag : String) : List Edit :=
  match Dict.get? tag tags with
  | none => []
  | some text =>
    match Tag.number? text with
    | some value => [.set tag value]
    | none => [.dropped tag text]

def count (tags : Dict String) (tag : String) : List Edit :=
  match Dict.get? tag tags with
  | none => []
  | some text =>
    match Tag.count? text with
    | .ok (some n) => [.set tag (.int n)]
    | .ok none => [.dropped tag text]
    | .error failure => [.failed failure]

def verbatim (tags : Dict String) (tag : String) : List Edit :=
  match Dict.get? tag tags with
  | none => []
  | some text => [.set tag (.str text)]

def toInteger (tags : Dict String) : List Edit :=
  if Dict.contains integerTag tags then [.set "type" (.str "integer")] else []

/-- The keywords that depend on the node's type. -/
def gated (tags : Dict String) : Gate → List Edit
  | .numeric => numericTags.flatMap (numeric tags) ++ toInteger tags
  | .string => lengthTags.flatMap (count tags) ++ formTags.flatMap (verbatim tags)
  | .array => countTags.flatMap (count tags)
  | .other => []

section

variable [Room]

/-- Sets a key to the value of a text. -/
def valued (key text : String) : Edit :=
  match Tag.valueWithin text with
  | .ok value => .set key value
  | .error failure => .failed failure

def default? (tags : Dict String) : List Edit :=
  match Dict.get? defaultTag tags with
  | none => []
  | some text => [valued defaultTag text]

def extensions (tags : Dict String) : List Edit :=
  (tags.filter fun entry => !recognizedTags.contains entry.1).map fun entry =>
    valued (extensionKey entry.1) entry.2

/-- The edits of one pass over a node of the given type. -/
def edits (type : Option Json) (tags : Dict String) (description : Option String) : List Edit :=
  describe description ++
    match gate type with
    | .ok gate => gated tags gate ++ default? tags ++ extensions tags
    | .error failure => [.failed failure]

end

@[simp] theorem valued_unlimited (key text : String) : valued key text = .set key (Tag.value text) :=
  rfl

/-- A node after a pass, with the failure that ended the pass early, if one did. -/
structure Applied where
  node : Node
  failure? : Option Failure
  events : List Event

def run (node : Node) : List Edit → Applied
  | [] => ⟨node, none, []⟩
  | .set key value :: rest => run (Dict.set key value node) rest
  | .dropped tag text :: rest =>
    let applied := run node rest
    { applied with events := .droppedTag tag text :: applied.events }
  | .failed failure :: _ => ⟨node, some failure, []⟩

variable [Room]

/-- One pass over a node. -/
def apply (node : Node) (tags : Dict String) (description : Option String) : Applied :=
  run node (edits (Dict.get? "type" node) tags description)

/-- A pass as a result: a failed pass yields no node. -/
def applied (node : Node) (tags : Dict String) (description : Option String) : Logged Node :=
  let applied := apply node tags description
  match applied.failure? with
  | none => ⟨.ok applied.node, applied.events⟩
  | some failure => ⟨.error failure, applied.events⟩

end Constraint

end Schematic
