import Schematic.Reference.Expression
import Schematic.Reference.Field
import Schematic.Reference.Formatting
import Schematic.Reference.Subscript

/-!
# Templates

A text is a template for objects. A percent sign in it starts a directive: a key
in parentheses if the objects are entries, then marks, a width and a precision,
and a letter for the form in which the next object is written. Two percent signs
stand for one. No object may be left over, unless the objects can be picked by
key.
-/

namespace Schematic.Template

open Annotation
open Json.Reader (consChar)

structure Directive where
  key : Option String
  marks : List Char
  width : Nat
  precision : Option Nat
  kind : Char

inductive Piece where
  | plain (c : Char)
  | directive (content : Directive)
  /-- A directive that the template ends in. -/
  | incomplete

/-- The rest of a key and what follows the parenthesis that closes it. -/
def keyText : Nat → List Char → Option (List Char × List Char)
  | _, [] => none
  | 0, ')' :: rest => some ([], rest)
  | depth + 1, ')' :: rest => consChar ')' (keyText depth rest)
  | depth, c :: rest => consChar c (keyText (if c = '(' then depth + 1 else depth) rest)

def isMark (c : Char) : Bool :=
  ['-', '+', ' ', '#', '0'].contains c

def isLengthMark (c : Char) : Bool :=
  ['h', 'l', 'L'].contains c

/-- The directive after a percent sign, without its key, and the rest. -/
def directive? (key : Option String) (cs : List Char) : Option (Directive × List Char) :=
  let marks := cs.takeWhile isMark
  let (width, rest) := Formatting.number (cs.dropWhile isMark)
  let (precision, rest) :=
    match rest with
    | '.' :: rest =>
      let (precision, rest) := Formatting.number rest
      (some (precision.getD 0), rest)
    | rest => (none, rest)
  let rest :=
    match rest with
    | c :: after => if isLengthMark c then after else c :: after
    | [] => []
  match rest with
  | kind :: rest => some (⟨key, marks, width.getD 0, precision, kind⟩, rest)
  | [] => none

/-- The directive after a percent sign, and the rest. -/
def keyed? : List Char → Option (Directive × List Char)
  | '(' :: rest =>
    (keyText 0 rest).bind fun (key, rest) => directive? (some (String.ofList key)) rest
  | cs => directive? none cs

def piecesWithin : Nat → List Char → List Piece
  | _, [] => []
  | 0, _ => [.incomplete]
  | steps + 1, '%' :: rest =>
    match keyed? rest with
    | some (directive, rest) => .directive directive :: piecesWithin steps rest
    | none => [.incomplete]
  | steps + 1, c :: rest => .plain c :: piecesWithin steps rest

/-- The pieces of a template; each takes a character at least. -/
def pieces (cs : List Char) : List Piece :=
  piecesWithin cs.length cs

/-! ## Filling a template -/

/-- The objects for a template. -/
structure Supply where
  rest : List Annotation
  /-- The object that keys pick from. -/
  source : Option Annotation

/-- Whether brackets after an object pick something from it by key. -/
def isPickable : Annotation → Bool
  | .mapping _ | .generic .. | .union .. | .synonym .. | .literal _ | .annotated .. => true
  | .cls ref => ref.family = .enumeration || ref.family = .flags
  | .value (.bytes _) => true
  | t => (t.sequence?.map Prod.fst) = some .list

/-- The objects that an operand stands for: the items of a tuple, or itself. -/
def supplyOf (t : Annotation) : Supply :=
  match t.sequence? with
  | some (.tuple, items) => ⟨items, none⟩
  | _ => ⟨[t], if isPickable t then some t else none⟩

def leftOver : Failure :=
  .typeFault "not all arguments converted during string formatting"

def exhausted : Failure :=
  .typeFault "not enough arguments for format string"

/-- The failure of an object that is no number where one is written. -/
def notNumber (kind : Char) (t : Annotation) : Failure :=
  let wanted := if kind = 'x' ∨ kind = 'o' ∨ kind = 'X' then "an integer" else "a real number"
  .typeFault ("%" ++ String.ofList [kind] ++ " format: " ++ wanted ++ " is required, not " ++
    t.className)

/-- An object as an integer is written. -/
def integerText (directive : Directive) (t : Annotation) : Except Failure (List Char) :=
  let kind := if directive.kind = 'i' ∨ directive.kind = 'u' then 'd' else directive.kind
  match t.index? with
  | none => .error (notNumber directive.kind t)
  | some n =>
    match Formatting.digits? (some kind) n with
    | none => .error .unacceptable
    | some cs =>
      let signed := if directive.marks.contains '+' && 0 ≤ n then '+' :: cs else cs
      .ok signed

/-- The text of an object under a directive, without regard to the width. -/
def written (directive : Directive) (t : Annotation) : Except Failure (List Char) :=
  let cut (cs : List Char) : List Char := cs.take (directive.precision.getD cs.length)
  if directive.kind = 's' then .ok (cut (Formatting.text t))
  else if directive.kind = 'r' then .ok (cut t.display)
  else if directive.kind = 'a' then .ok (cut (Formatting.inAscii t.display))
  else integerText directive t

/-- A text set to the right within a width, or to the left where a minus asks for it. -/
def padded (directive : Directive) (cs : List Char) : List Char :=
  let rest := List.replicate (directive.width - cs.length) ' '
  if directive.marks.contains '-' then cs ++ rest else rest ++ cs

/-- The supply from which a directive takes its object. -/
def supplyFor (scope : Scope) (supply : Supply) (directive : Directive) : Except Failure Supply :=
  match directive.key, supply.source with
  | none, _ => .ok supply
  | some _, none => .error (.typeFault "format requires a mapping")
  | some key, some source => do
    let t ← Subscript.item scope source (.str key)
    pure { supply with rest := [t] }

/-- The text of pieces that a supply fills. -/
def filled (scope : Scope) (supply : Supply) : List Piece → Except Failure (List Char)
  | [] => if supply.rest.isEmpty || supply.source.isSome then .ok [] else .error leftOver
  | .incomplete :: _ => .error .unacceptable
  | .plain c :: others => do
    let text ← filled scope supply others
    pure (c :: text)
  | .directive directive :: others => do
    let supply ← supplyFor scope supply directive
    if directive.kind = '%' then
      let text ← filled scope supply others
      pure ('%' :: text)
    else
      match supply.rest with
      | [] => .error exhausted
      | t :: rest => do
        let own ← written directive t
        let text ← filled scope { supply with rest } others
        pure (padded directive own ++ text)

/-- The text that a template makes of an operand, if the left operand is a template. -/
def onText? (scope : Scope) (operator : BinaryOperator) (a b : Annotation) :
    Option (Except Failure Annotation) :=
  match operator, a.text? with
  | .remainder, some s =>
    some ((filled scope (supplyOf b) (pieces s.toList)).map fun cs => .str (String.ofList cs))
  | _, _ => none

end Schematic.Template
