import Schematic.Reference.Application
import Schematic.Reference.Comparing
import Schematic.Reference.Method
import Schematic.Reference.Operator
import Schematic.Reference.Selection
import Schematic.Reference.Subscript

/-!
# Values of expressions

An expression denotes an object in a scope, or fails. Operands are evaluated from
left to right, and the first failure counts. A conjunction, a disjunction and a
condition leave out what does not matter to them, and so does a chain of
comparisons after the first one that does not hold.
-/

namespace Schematic.Expression

open Annotation (collectionOf overlay setEntry setOf str tuple)

/-- Several objects as the arguments of a call: spreads and names are told apart already. -/
def joinArguments (first rest : Construction.Arguments) : Construction.Arguments :=
  ⟨first.positional ++ rest.positional, Dict.update first.named rest.named⟩

/-- The named arguments that a mapping stands for. -/
def argumentsOf (t : Annotation) : Except Failure Construction.Arguments :=
  match t with
  | .mapping entries => named entries
  | t =>
    .error (.typeFault ("argument after ** must be a mapping, not " ++ t.className))
where
  named : List Annotation → Except Failure Construction.Arguments
    | key :: item :: rest => do
      let others ← named rest
      match key.text? with
      | some own => pure (joinArguments ⟨[], [(own, item)]⟩ others)
      | none => .error (.typeFault "keywords must be strings")
    | _ => .ok ⟨[], []⟩

/-- The entries that a spread in a mapping stands for. -/
def entriesOf (t : Annotation) : Except Failure (List Annotation) :=
  match t with
  | .mapping entries => .ok entries
  | t => .error (.typeFault ("'" ++ t.className ++ "' object is not a mapping"))

/-- A collection of items, those of a set being looked up. -/
def collected (shape : Shape) (items : List Annotation) : Except Failure Annotation :=
  match shape with
  | .set | .frozenset => setOf shape items
  | shape => .ok (collectionOf shape items)

/-- What a comprehension builds from the objects that it yields. -/
def gathered (yielded : Yield) (items : List Annotation) : Except Failure Annotation :=
  match yielded with
  | .list => .ok (collectionOf .list items)
  | .set => setOf .set items
  | .generator =>
    .ok (.opaqueObject (.builtin "generator") "<generator object <genexpr>>" true)
  | .mapping =>
    (items.foldlM (fun entries (item : Annotation) =>
      Application.withPair entries ((item.sequence?.map Prod.snd).getD [])) []).map .mapping

/-- Binds the names of a clause to an item, or to the items that it has. -/
def bindTargets (scope : Scope) (targets : List String) (t : Annotation) : Except Failure Scope :=
  match targets with
  | [target] => .ok (scope.bind target t)
  | targets => do
    let items ← scope.items t
    if items.length = targets.length then pure (scope.bindAll targets items)
    else .error .unacceptable

mutual

/-- The object that an expression denotes. -/
def eval (scope : Scope) : Expression → Except Failure Annotation
  | name text =>
    match scope.find? text with
    | some t => .ok t
    | none => .error (.unknownName text)
  | constant value => .ok (.value value)
  | ellipsis => .ok .ellipsis
  | selection owner wanted => do
    let owner ← eval scope owner
    Selection.select scope owner wanted
  | subscript owner index => do
    let owner ← eval scope owner
    let index ← eval scope index
    Subscript.item scope owner index
  | slice lower upper step => do
    let lower ← eval scope lower
    let upper ← eval scope upper
    let step ← eval scope step
    pure (.collection .slice [lower, upper, step])
  | collection shape items => do
    let items ← evalItems scope (shape = .set) items
    collected shape items
  | mapping entries => do
    let entries ← evalEntries scope [] entries
    pure (.mapping entries)
  | spread content => do
    let t ← eval scope content
    let items ← scope.spread t
    pure (tuple items)
  | unary operator operand => do
    let operand ← eval scope operand
    Operator.unary scope operator operand
  | binary operator left right => do
    let left ← eval scope left
    let right ← eval scope right
    Operator.binary scope operator left right
  | comparison _ [] => .ok (.bool true)
  | comparison operators (first :: rest) => do
    let left ← eval scope first
    evalChain scope left operators rest
  | conjunction left right => do
    let left ← eval scope left
    if left.isTrue then eval scope right else pure left
  | disjunction left right => do
    let left ← eval scope left
    if left.isTrue then pure left else eval scope right
  | conditional test positive negative => do
    let test ← eval scope test
    if test.isTrue then eval scope positive else eval scope negative
  | call (lambda signature defaults body) args => do
    let defaults ← evalItems scope false defaults
    let args ← evalArguments scope args
    let values ← Construction.bound signature (signature.optional.zip defaults) args
    eval (scope.within.bindAll (Dict.keys values) (values.map Prod.snd)) body
  | call (selection owner wanted) args => do
    let owner ← eval scope owner
    let function ← Selection.select scope owner wanted
    let args ← evalArguments scope args
    (Method.result? scope owner wanted args.positional).getD
      (Application.apply scope function args)
  | call function args => do
    let function ← eval scope function
    let args ← evalArguments scope args
    Application.apply scope function args
  | keyword _ content => eval scope content
  | lambda _ defaults _ => do
    let _ ← evalItems scope false defaults
    pure (.opaqueObject (.builtin "function") "<function <lambda>>" true)
  | comprehension .generator _ => gathered .generator []
  | comprehension yielded steps => do
    let items ← evalSteps scope scope.within steps
    gathered yielded items
  | clause _ source _ => eval scope source
  | formatted parts => do
    let text ← evalParts scope parts
    pure (str (String.ofList text))
  | field content _ _ => eval scope content

/-- The items of a collection, spreads being replaced by what they stand for. -/
def evalItems (scope : Scope) (isSet : Bool) : List Expression → Except Failure (List Annotation)
  | [] => .ok []
  | spread content :: rest => do
    let t ← eval scope content
    let items ← if isSet then scope.items t else scope.spread t
    let others ← evalItems scope isSet rest
    pure (items ++ others)
  | first :: rest => do
    let first ← eval scope first
    let rest ← evalItems scope isSet rest
    pure (first :: rest)

/-- The entries of a mapping laid over others. -/
def evalEntries (scope : Scope) (entries : List Annotation) :
    List Expression → Except Failure (List Annotation)
  | spread content :: _ :: rest => do
    let t ← eval scope content
    let others ← entriesOf t
    evalEntries scope (overlay entries others) rest
  | key :: content :: rest => do
    let key ← eval scope key
    let item ← eval scope content
    let key ← key.hashed
    evalEntries scope (setEntry key item entries) rest
  | _ => .ok entries

/-- Comparisons in a chain, of which the first that does not hold is the last. -/
def evalChain (scope : Scope) (left : Annotation) :
    List Comparison → List Expression → Except Failure Annotation
  | operator :: operators, right :: rest => do
    let right ← eval scope right
    let holds ← operator.holds scope left right
    if holds && !operators.isEmpty then evalChain scope right operators rest
    else pure (.bool holds)
  | _, _ => .ok (.bool true)

/-- The arguments of a call. -/
def evalArguments (scope : Scope) : List Expression → Except Failure Construction.Arguments
  | [] => .ok ⟨[], []⟩
  | spread content :: rest => do
    let t ← eval scope content
    let items ← scope.spread t
    let others ← evalArguments scope rest
    pure (joinArguments ⟨items, []⟩ others)
  | keyword (some own) content :: rest => do
    let t ← eval scope content
    let others ← evalArguments scope rest
    pure (joinArguments ⟨[], [(own, t)]⟩ others)
  | keyword none content :: rest => do
    let t ← eval scope content
    let own ← argumentsOf t
    let others ← evalArguments scope rest
    pure (joinArguments own others)
  | comprehension .generator steps :: rest => do
    let items ← evalSteps scope scope.within steps
    let others ← evalArguments scope rest
    pure (joinArguments ⟨[collectionOf .list items], []⟩ others)
  | first :: rest => do
    let t ← eval scope first
    let others ← evalArguments scope rest
    pure (joinArguments ⟨[t], []⟩ others)

/-- The objects that a comprehension yields. The source of the first clause is evaluated in the
scope around it, all else within. -/
def evalSteps (outer inner : Scope) : List Expression → Except Failure (List Annotation)
  | [] => .ok []
  | clause targets source conditions :: rest => do
    let source ← eval outer source
    let items ← outer.items source
    let yielded ← items.mapM fun item => do
      let inner ← bindTargets inner targets item
      let holds ← evalAllTrue inner conditions
      if holds then evalSteps inner inner rest else pure []
    pure yielded.flatten
  | element :: _ => do
    let item ← eval inner element
    pure [item]

/-- Whether all conditions hold. -/
def evalAllTrue (scope : Scope) : List Expression → Except Failure Bool
  | [] => .ok true
  | condition :: rest => do
    let t ← eval scope condition
    if t.isTrue then evalAllTrue scope rest else pure false

/-- The text made from literal parts and fields. -/
def evalParts (scope : Scope) : List Expression → Except Failure (List Char)
  | [] => .ok []
  | field content conversion format :: rest => do
    let t ← eval scope content
    let shown : Annotation :=
      match conversion with
      | some c => str (String.ofList (Formatting.converted c t))
      | none => t
    let format ← evalParts scope format
    let text ← Formatting.formatted format shown
    let others ← evalParts scope rest
    pure (text ++ others)
  | part :: rest => do
    let t ← eval scope part
    let others ← evalParts scope rest
    pure (Formatting.text t ++ others)

end

end Schematic.Expression
