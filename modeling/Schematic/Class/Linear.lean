/-!
# Linearizations

A class and all its bases in one line. The lines of the direct bases, and the
line of the direct bases themselves, are merged: the next one is always the
first head that stands in no tail. So a class comes before its bases, and every
line keeps its order. Where no head qualifies there is no linearization.
-/

namespace Schematic.Linear

variable {α : Type} [DecidableEq α]

/-- The first head that stands in no tail. -/
def next? (lines : List (List α)) : Option α :=
  (lines.filterMap List.head?).find? fun head => lines.all fun line => !(line.drop 1).contains head

/-- The lines without a head. -/
def advance (head : α) (lines : List (List α)) : List (List α) :=
  lines.map fun line => if line.head? = some head then line.drop 1 else line

def mergeWithin : Nat → List (List α) → Option (List α)
  | 0, lines => if lines.all List.isEmpty then some [] else none
  | steps + 1, lines =>
    if lines.all List.isEmpty then some []
    else
      match next? lines with
      | none => none
      | some head => (mergeWithin steps (advance head lines)).map (head :: ·)

/-- Merges lines; every step takes at least one entry off. -/
def merge (lines : List (List α)) : Option (List α) :=
  mergeWithin lines.flatten.length lines

/-- The line of a class, given its bases and their lines. -/
def ofBases (own : α) (bases : List α) (line : α → List α) : Option (List α) :=
  (merge (bases.map line ++ [bases])).map (own :: ·)

end Schematic.Linear
