/-!
# Paths

A path is a start, the working directory or a root, and a list of names. Empty
names and single dots do not count, double dots stay. Two slashes in front, but
not three, are a root of their own.
-/

namespace Schematic

namespace Path

inductive Start where
  | working
  | root
  | doubleRoot
  deriving DecidableEq, Repr

/-- The parts between slashes. -/
def parts : List Char → List (List Char)
  | [] => [[]]
  | c :: rest =>
    if c = '/' then [] :: parts rest
    else
      match parts rest with
      | [] => [[c]]
      | part :: others => (c :: part) :: others

def startOf : List Char → Start
  | '/' :: '/' :: '/' :: _ => .root
  | '/' :: '/' :: _ => .doubleRoot
  | '/' :: _ => .root
  | _ => .working

def Start.text : Start → String
  | working => ""
  | root => "/"
  | doubleRoot => "//"

end Path

structure Path where
  start : Path.Start
  names : List String
  deriving DecidableEq, Repr

namespace Path

def ofString (text : String) : Path :=
  let cs := text.toList
  ⟨startOf cs, ((parts cs).map String.ofList).filter fun name => name ≠ "" ∧ name ≠ "."⟩

def toString (path : Path) : String :=
  let text := path.start.text ++ "/".intercalate path.names
  if text = "" then "." else text

/-- The path without its last name. -/
def parent (path : Path) : Path :=
  { path with names := path.names.dropLast }

end Path

end Schematic
