import Schematic.Model.Classify
import Schematic.Schema.Constraint

/-!
# Compilation

A type is compiled in three steps: it is classified, the node of its category is
built, and the documentation of its symbol is laid over the node. Elements of
arrays and members of structs are compiled in the same way; a member's own
documentation is laid over the node of its type in a second pass.

Schemas are written inline, so a struct that is reached while it is open has
none. The open structs are kept with their identities, outermost first.

The compilations that are under way take their part of the room for the containers
in the text of a tag. How much of it is left is a matter of the place where the
text is read.
-/

namespace Schematic

/-- Where in a compilation the text of a tag is read. -/
structure Stack.Place where
  /-- How much deeper types may still be nested. -/
  depth : Nat
  /-- How many structs are open. -/
  structs : Nat
  /-- Whether the text is that of a member rather than of a type. -/
  ofMember : Bool

/-- The room for containers that is left at each place of a compilation. -/
class Stack where
  room : Stack.Place → Room

instance Stack.unlimited : Stack := ⟨fun _ => Room.unlimited⟩

end Schematic

namespace Schematic.TypeModel

variable {τ ι : Type}

/-- The structs that are open, outermost first, with their rendered names. -/
abbrev Open (ι : Type) := List (ι × String)

def reject {α : Type} (model : TypeModel τ ι) (rejection : Rejection) (type : τ) : Logged α :=
  .fail (.ofError (.unsupportedType rejection (model.render type)))

/-- The values of a union of literals; nothing if some member is no literal. -/
def literalValues (model : TypeModel τ ι) : List τ → Except Failure (Option (List Json))
  | [] => .ok (some [])
  | type :: rest => do
    let flags ← model.flags type
    if !flags.isLiteral then pure none
    else
      let value ←
        if flags.contains .booleanLiteral then pure (.bool (model.isTrueLiteral type))
        else model.literal type
      let values ← model.literalValues rest
      pure (values.map (value :: ·))

/-- Only a union of literals has a schema, and only if it has members. -/
def buildUnion (model : TypeModel τ ι) (type : τ) : Logged Node := do
  let values ← Logged.lift (model.literalValues (model.unionMembers type))
  match values.getD [] with
  | [] => model.reject .complexUnion type
  | values => pure [("enum", .arr values)]

def includesUndefined (model : TypeModel τ ι) (type : τ) : Except Failure Bool := do
  let flags ← model.flags type
  if flags.contains .undefined then pure true
  else if flags.contains .union then
    (model.unionMembers type).anyM fun member => do
      let flags ← model.flags member
      pure (flags.contains .undefined)
  else pure false

def isOptional (model : TypeModel τ ι) (member : Member τ) : Except Failure Bool :=
  if member.optional then pure true else model.includesUndefined member.type

/-- A property of a struct: its name, its schema and whether it is required. -/
structure Property where
  name : String
  schema : Node
  required : Bool

/-- Compiles a member, given how types are compiled; an ignored optional member yields nothing. -/
def compileMember [Room] (model : TypeModel τ ι) (compileType : τ → Logged Node) (typeName : String)
    (member : Member τ) : Logged (Option Property) := do
  let tags ← Logged.lift (Symbol.tagTextsOf member.symbol)
  let optional ← Logged.lift (model.isOptional member)
  if Dict.contains Constraint.ignoreTag tags then
    if optional then
      Logged.record (.skippedMember typeName member.name)
      pure none
    else
      Logged.fail (.schema (.ignoreConflict member.name)
        ("Member '" ++ member.name ++ "' of " ++ typeName ++ " is required"))
  else
    let node ← compileType member.type
    let node ← Constraint.applied node tags (Symbol.descriptionOf member.symbol)
    pure (some ⟨member.name, node, !optional⟩)

/-- The node of a struct with the given properties. -/
def structNode (properties : List Property) : Node :=
  let schemas := Dict.ofList (properties.map fun property =>
    (property.name, Json.obj property.schema))
  let required := (properties.filter Property.required).map Property.name
  [("type", .str "object"), ("properties", .obj schemas)] ++
    if required.isEmpty then [] else [("required", .strings required)]

/-- The node of a type of the given category, given how types are compiled under open structs. -/
def build [Room] [BEq ι] (model : TypeModel τ ι) (compileType : Open ι → τ → Logged Node)
    (active : Open ι) (type : τ) : Category → Logged Node
  | .string => pure [("type", .str "string")]
  | .stringLiteral => do
    pure [("type", .str "string"), ("const", ← Logged.lift (model.literal type))]
  | .number => pure [("type", .str "number")]
  | .numberLiteral => do
    pure [("type", .str "number"), ("const", ← Logged.lift (model.literal type))]
  | .boolean => pure [("type", .str "boolean")]
  | .booleanLiteral => pure [("type", .str "boolean"), ("const", .bool (model.isTrueLiteral type))]
  | .null | .undefined => pure [("type", .str "null")]
  | .enum => do pure [("enum", .arr (← Logged.lift (model.enumValues type)))]
  | .union => model.buildUnion type
  | .array =>
    match model.element? type with
    | none => pure [("type", .str "array")]
    | some element => do
      pure [("type", .str "array"), ("items", .obj (← compileType active element))]
  | .object => do
    let identity := model.identity type
    let typeName := model.render type
    if active.any fun entry => entry.1 == identity then
      Logged.fail (.ofError (.recursive typeName (active.map Prod.snd ++ [typeName])))
    else
      let members ← model.members type
      let properties ← members.mapM
        (model.compileMember (compileType (active ++ [(identity, typeName)])) typeName)
      pure (structNode (properties.filterMap id))
  | .tuple => model.reject .tuple type
  | .intersection => model.reject .intersection type
  | .unsupported => model.reject .unsupported type

/-- Compiles a type under open structs, given how its parts are compiled and how much deeper these may
be nested. -/
def compileStep [Stack] [BEq ι] (model : TypeModel τ ι) (compileType : Open ι → τ → Logged Node)
    (depth : Nat) (active : Open ι) (type : τ) : Logged Node := do
  let symbol := model.symbol type
  let tags ← Logged.lift (Symbol.tagTextsOf symbol)
  let category ← Logged.lift (model.classify type)
  let node ←
    haveI := Stack.room ⟨depth, active.length, true⟩
    model.build compileType active type category
  haveI := Stack.room ⟨depth, active.length, false⟩
  Constraint.applied node tags (Symbol.descriptionOf symbol)

/-- Compiles a type under open structs, `depth` bounding the nesting. -/
def compileUnder [Stack] [BEq ι] (model : TypeModel τ ι) : Nat → Open ι → τ → Logged Node
  | 0, _, _ => .fail .unbounded
  | depth + 1, active, type => model.compileStep (model.compileUnder depth) depth active type

/-- The schema of a type. -/
def compile [Stack] [BEq ι] (model : TypeModel τ ι) (type : τ) : Logged Node := do
  Logged.record (.compiling (model.render type))
  model.compileUnder (model.depth type) [] type

end Schematic.TypeModel
