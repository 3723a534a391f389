import Schematic.Reference.Comparing
import Schematic.Reference.Operator
import Schematic.Reference.Selection

/-!
# Built-in functions

Functions that count, compare, order and add up the items of an object, that give
a number or a character another form, or that ask for the class and the
attributes of an object. The result of any other function is not known.
-/

namespace Schematic.Function

open Annotation

/-! ## Items -/

/-- The number of items of an object. -/
def size (scope : Scope) (t : Annotation) : Except Failure Annotation :=
  match t, scope.items? t with
  | .generic .., _ | _, none =>
    .error (.typeFault ("object of type '" ++ t.className ++ "' has no len()"))
  | _, some items => .ok (.int items.length)

/-- The item that a comparison prefers to all others, the first of several. -/
def extreme (scope : Scope) (comparison : Comparison) :
    List Annotation → Except Failure Annotation
  | [] => .error .unacceptable
  | first :: rest =>
    rest.foldlM (fun best t => do
      let holds ← comparison.holds scope t best
      pure (if holds then t else best)) first

/-- An object put in order among others, after those that are equal to it. -/
def inserted (scope : Scope) (t : Annotation) : List Annotation → Except Failure (List Annotation)
  | [] => .ok [t]
  | last :: earlier => do
    let holds ← Comparison.less.holds scope t last
    if holds then
      let others ← inserted scope t earlier
      pure (last :: others)
    else pure (t :: last :: earlier)

/-- Objects in ascending order; equal ones keep theirs. -/
def sorted (scope : Scope) (items : List Annotation) : Except Failure (List Annotation) := do
  let descending ← items.foldlM (fun kept t => inserted scope t kept) []
  pure descending.reverse

/-- The sum of objects and the one to begin with. -/
def total (scope : Scope) (items : List Annotation) (start : Annotation) :
    Except Failure Annotation :=
  items.foldlM (fun sum t => Operator.binary scope .add sum t) start

/-! ## Numbers and characters -/

def absolute (t : Annotation) : Except Failure Annotation :=
  match t, t.index? with
  | .value (.float x), _ => .ok (.value (.float (if x.isNegative then x.negate else x)))
  | _, some n => .ok (.int n.natAbs)
  | t, none => .error (.typeFault ("bad operand type for abs(): '" ++ t.className ++ "'"))

/-- The integer that an object has to be. -/
def index (t : Annotation) : Except Failure Int :=
  match t.index? with
  | some n => .ok n
  | none =>
    .error (.typeFault ("'" ++ t.className ++ "' object cannot be interpreted as an integer"))

/-- An integer with the mark of a base. -/
def based (base : Nat) (mark : String) (t : Annotation) : Except Failure Annotation := do
  let n ← index t
  let sign := if n < 0 then "-" else ""
  pure (.str (sign ++ mark ++ String.ofList (Nat.toDigits base n.natAbs)))

/-- The greatest code point. -/
def greatestCode : Int := 0x10FFFF

def character (t : Annotation) : Except Failure Annotation := do
  let n ← index t
  if 0 ≤ n && n ≤ greatestCode then pure (.str (String.ofList [Char.ofNat n.toNat]))
  else .error .unacceptable

def code (t : Annotation) : Except Failure Annotation :=
  match t.text?.map String.toList with
  | some [c] => .ok (.int c.toNat)
  | some cs =>
    .error (.typeFault ("ord() expected a character, but string of length " ++
      toString cs.length ++ " found"))
  | none =>
    .error (.typeFault ("ord() expected string of length 1, but " ++ t.className ++ " found"))

/-- The integer nearest to a number, of two such the even one. -/
def rounded (t : Annotation) : Except Failure Annotation :=
  match t, t.index? with
  | .value (.float (.finite x)), _ =>
    let (num, den) := x.quotient
    let nearest : Int := Double.roundHalfEven num den
    .ok (.int (if x.negative then -nearest else nearest))
  | .value (.float .nan), _ => .error .unacceptable
  | .value (.float _), _ => .error (.overflow "cannot convert float infinity to integer")
  | _, some n => .ok (.int n)
  | t, none =>
    .error (.typeFault ("type " ++ t.className ++ " doesn't define __round__ method"))

/-- The quotient rounded down, and the remainder. -/
def division (scope : Scope) (a b : Annotation) : Except Failure Annotation :=
  match a, b with
  | .value v, .value w =>
    if v.quantity?.isSome && w.quantity?.isSome then do
      let quotient ← Operator.binary scope .floorDivide a b
      let remainder ← Operator.binary scope .remainder a b
      pure (tuple [quotient, remainder])
    else .error unsupported
  | _, _ => .error unsupported
where
  unsupported : Failure :=
    .typeFault ("unsupported operand type(s) for divmod(): '" ++ a.className ++ "' and '" ++
      b.className ++ "'")

/-! ## Classes and attributes -/

/-- Whether an object can be called. -/
def isCallable : Annotation → Bool
  | .cls _ | .generic .. | .function _ | .newType .. | .synonym .. | .union .named _ => true
  | _ => false

/-- The classes that an object stands for: a class, or the members of a tuple or a union. -/
def classes? : Annotation → Option (List ClassRef)
  | .cls ref => some [ref]
  | .value .none => none
  | .union _ members => members.mapM fun member =>
    match member with
    | .cls ref => some ref
    | _ => none
  | t =>
    match t.sequence? with
    | some (.tuple, items) => items.mapM fun item =>
      match item with
      | .cls ref => some ref
      | _ => none
    | _ => none

/-- Whether a class is derived from one of those that an object stands for. -/
def derives (scope : Scope) (name : String) (ref : ClassRef) (t : Annotation) :
    Except Failure Annotation :=
  match classes? t, t with
  | some classes, _ => .ok (.bool (classes.any (scope.derives ref)))
  | none, .generic (.cls _) _ =>
    .error (.typeFault (name ++ "() argument 2 cannot be a parameterized generic"))
  | none, _ =>
    let wanted := if name = "isinstance" then "a type" else "a class"
    .error (.typeFault (name ++ "() arg 2 must be " ++ wanted ++
      ", a tuple of " ++ (if name = "isinstance" then "types" else "classes") ++ ", or a union"))

def derivedClass (scope : Scope) (t base : Annotation) : Except Failure Annotation :=
  match t with
  | .cls ref => derives scope "issubclass" ref base
  | _ => .error (.typeFault "issubclass() arg 1 must be a class")

/-- Whether an attribute is missing. -/
def isMissing : Failure → Bool
  | .noAttribute .. | .noMember _ => true
  | _ => false

def hasSelection (scope : Scope) (t : Annotation) (name : String) : Except Failure Annotation :=
  match Selection.select scope t name with
  | .ok _ => .ok (.bool true)
  | .error failure => if isMissing failure then .ok (.bool false) else .error failure

/-- An attribute, or a substitute where it is missing. -/
def selectionOr (scope : Scope) (t substitute : Annotation) (name : String) :
    Except Failure Annotation :=
  match Selection.select scope t name with
  | .ok t => .ok t
  | .error failure => if isMissing failure then .ok substitute else .error failure

/-! ## All functions -/

/-- What a function makes of texts and objects alone. -/
def ofForms? (name : String) (args : List Annotation) : Option (Except Failure Annotation) :=
  match name, args with
  | "repr", [t] => some (.ok (.str (String.ofList t.display)))
  | "ascii", [t] => some (.ok (.str (String.ofList (Formatting.inAscii t.display))))
  | "format", [t] => some (.ok (.str (String.ofList (Formatting.text t))))
  | "format", [t, description] => description.text?.map fun description =>
    (Formatting.formatted description.toList t).map fun cs => .str (String.ofList cs)
  | "abs", [t] => some (absolute t)
  | "bin", [t] => some (based 2 "0b" t)
  | "oct", [t] => some (based 8 "0o" t)
  | "hex", [t] => some (based 16 "0x" t)
  | "chr", [t] => some (character t)
  | "ord", [t] => some (code t)
  | "round", [t] => some (rounded t)
  | "callable", [t] => some (.ok (.bool (isCallable t)))
  | "print", _ => some (.ok .noneValue)
  | _, _ => none

/-- What a function makes of the items of an object. -/
def ofItems? (scope : Scope) (name : String) (args : List Annotation) :
    Option (Except Failure Annotation) :=
  match name, args with
  | "len", [t] => some (size scope t)
  | "any", [t] => some ((scope.items t).map fun items => .bool (items.any isTrue))
  | "all", [t] => some ((scope.items t).map fun items => .bool (items.all isTrue))
  | "sum", [t] => some ((scope.items t).bind fun items => total scope items (.int 0))
  | "sum", [t, start] => some ((scope.items t).bind fun items => total scope items start)
  | "sorted", [t] => some do
    let items ← scope.items t
    let items ← sorted scope items
    pure (collectionOf .list items)
  | "max", [t] => some ((scope.items t).bind (extreme scope .greater))
  | "min", [t] => some ((scope.items t).bind (extreme scope .less))
  | "max", first :: second :: rest => some (extreme scope .greater (first :: second :: rest))
  | "min", first :: second :: rest => some (extreme scope .less (first :: second :: rest))
  | _, _ => none

/-- What a function asks of classes and attributes, or works out from two numbers. -/
def ofPair? (scope : Scope) (name : String) (args : List Annotation) :
    Option (Except Failure Annotation) :=
  match name, args with
  | "isinstance", [t, base] => some (derives scope "isinstance" t.classOf base)
  | "issubclass", [t, base] => some (derivedClass scope t base)
  | "getattr", [t, wanted] => wanted.text?.map (Selection.select scope t)
  | "getattr", [t, wanted, substitute] => wanted.text?.map (selectionOr scope t substitute)
  | "hasattr", [t, wanted] => wanted.text?.map (hasSelection scope t)
  | "divmod", [a, b] => some (division scope a b)
  | "pow", [a, b] => some (Operator.binary scope .power a b)
  | _, _ => none

/-- Functions of one argument. -/
def unaryFunctions : List String :=
  ["abs", "all", "any", "ascii", "bin", "callable", "chr", "hex", "len", "oct", "ord", "repr"]

/-- The result of a function that is not known, or of one with a wrong number of arguments. -/
def unknownResult (name : String) (args : List Annotation) : Except Failure Annotation :=
  if unaryFunctions.contains name then
    .error (.typeFault (name ++ "() takes exactly one argument (" ++ toString args.length ++
      " given)"))
  else .ok (.opaqueObject .object ("<" ++ name ++ ">") true)

/-- The object that a built-in function gives. -/
def result (scope : Scope) (name : String) (args : List Annotation) : Except Failure Annotation :=
  (((ofForms? name args).or (ofItems? scope name args)).or (ofPair? scope name args)).getD
    (unknownResult name args)

end Schematic.Function
