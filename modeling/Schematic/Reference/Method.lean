import Schematic.Reference.Formatting
import Schematic.Reference.Scope
import Schematic.Text.Blank

/-!
# Methods

A text can be written in other letters, trimmed, taken apart and joined; a
mapping gives the entry of a key, or a substitute. Letters are those of ASCII.
-/

namespace Schematic.Method

open Annotation

/-- Letters at the start of words in one form, all others in another one. -/
def byWord (first others : Char → Char) : Bool → List Char → List Char
  | _, [] => []
  | within, c :: rest =>
    (if within then others c else first c) :: byWord first others c.isAlpha rest

def capitalized : List Char → List Char
  | [] => []
  | c :: rest => c.toUpper :: rest.map Char.toLower

def swapped (c : Char) : Char :=
  if c.isUpper then c.toLower else c.toUpper

/-- A text without the characters at its ends that are of a kind. -/
def trimmed (left right : Bool) (drops : Char → Bool) (cs : List Char) : List Char :=
  let cs := if left then cs.dropWhile drops else cs
  if right then (cs.reverse.dropWhile drops).reverse else cs

def trimming? : String → Option (Bool × Bool)
  | "strip" => some (true, true)
  | "lstrip" => some (true, false)
  | "rstrip" => some (false, true)
  | _ => none

/-- A method that takes nothing. -/
def alone? (name : String) (cs : List Char) : Option Annotation :=
  let made (cs : List Char) : Option Annotation := some (.str (String.ofList cs))
  match name with
  | "upper" => made (cs.map Char.toUpper)
  | "lower" | "casefold" => made (cs.map Char.toLower)
  | "title" => made (byWord Char.toUpper Char.toLower false cs)
  | "capitalize" => made (capitalized cs)
  | "swapcase" => made (cs.map swapped)
  | "split" => some (collectionOf .list ((Text.words cs).map fun word => .str (String.ofList word)))
  | name => (trimming? name).bind fun (left, right) => made (trimmed left right Text.isBlank cs)

/-- The parts of a text between those equal to another one. -/
def parts (s separator : String) : Except Failure Annotation :=
  if separator.isEmpty then .error .unacceptable
  else .ok (collectionOf .list ((s.splitOn separator).map .str))

/-- A method that takes a text. -/
def withText? (name s other : String) : Option (Except Failure Annotation) :=
  match name with
  | "startswith" => some (.ok (.bool (s.startsWith other)))
  | "endswith" => some (.ok (.bool (s.endsWith other)))
  | "removeprefix" =>
    let rest := if s.startsWith other then s.toList.drop other.length else s.toList
    some (.ok (.str (String.ofList rest)))
  | "removesuffix" =>
    let rest := if s.endsWith other then s.toList.take (s.length - other.length) else s.toList
    some (.ok (.str (String.ofList rest)))
  | "split" => some (parts s other)
  | name => (trimming? name).map fun (left, right) =>
    .ok (.str (String.ofList (trimmed left right other.toList.contains s.toList)))

/-- Texts joined by another one. -/
def joined (scope : Scope) (s : String) (t : Annotation) : Except Failure Annotation :=
  match scope.items? t with
  | none => .error (.typeFault "can only join an iterable")
  | some items =>
    match items.findIdx? fun item => item.text?.isNone with
    | none => .ok (.str (s.intercalate (items.filterMap Annotation.text?)))
    | some place =>
      let kind := ((items[place]?).map Annotation.className).getD ""
      .error (.typeFault ("sequence item " ++ toString place ++
        ": expected str instance, " ++ kind ++ " found"))

/-- A method of a text. -/
def ofText? (scope : Scope) (s name : String) (args : List Annotation) :
    Option (Except Failure Annotation) :=
  match name, args with
  | name, [] => (alone? name s.toList).map .ok
  | "join", [t] => some (joined scope s t)
  | name, [t] => t.text?.bind (withText? name s)
  | "replace", [old, new] => do
    let old ← old.text?
    let new ← new.text?
    if old.isEmpty then none else some (.ok (.str (new.intercalate (s.splitOn old))))
  | _, _ => none

/-- A method of a mapping. -/
def ofMapping? (entries : List Annotation) (name : String) (args : List Annotation) :
    Option (Except Failure Annotation) :=
  match name, args with
  | "get", [key] => some (key.hashed.map fun key => (itemOf? key entries).getD .noneValue)
  | "get", [key, substitute] =>
    some (key.hashed.map fun key => (itemOf? key entries).getD substitute)
  | _, _ => none

/-- The object that a method of an object gives, if the method is known. -/
def result? (scope : Scope) (owner : Annotation) (name : String) (args : List Annotation) :
    Option (Except Failure Annotation) :=
  match owner, owner.text? with
  | .mapping entries, _ => ofMapping? entries name args
  | _, some s => ofText? scope s name args
  | _, none => none

end Schematic.Method
