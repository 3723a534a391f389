import Schematic.Text.Blank
import Schematic.Text.Line

/-!
# The margin of a block of text

A text written inside an indented block carries the block's indentation on every
line but its first. Tabs become spaces up to the next multiple of eight columns;
the margin is the least indentation among the later lines that are not blank; it
is cut from all later lines, the first line loses its own indentation, and empty
lines at either end go.
-/

namespace Schematic.Text

def tabWidth : Nat := 8

/-- Expands tabs, `column` being the column of the first character. -/
def expandTabsFrom (column : Nat) : List Char → List Char
  | [] => []
  | c :: rest =>
    if c = '\t' then
      let width := tabWidth - column % tabWidth
      List.replicate width ' ' ++ expandTabsFrom (column + width) rest
    else c :: expandTabsFrom (if c = '\n' ∨ c = '\r' then 0 else column + 1) rest

def expandTabs (cs : List Char) : List Char :=
  expandTabsFrom 0 cs

/-- The number of blanks in front of a line, if the line holds anything else. -/
def indentation? (line : List Char) : Option Nat :=
  if (trimLeft line).isEmpty then none else some (line.takeWhile isBlank).length

/-- The least indentation among the lines that are not blank. -/
def margin? (lines : List (List Char)) : Option Nat :=
  (lines.filterMap indentation?).min?

/-- Removes empty lines at both ends. -/
def dropEmptyEnds (lines : List (List Char)) : List (List Char) :=
  ((lines.reverse.dropWhile List.isEmpty).reverse).dropWhile List.isEmpty

/-- The lines of a block with the margin removed. -/
def removeMargin : List (List Char) → List (List Char)
  | [] => []
  | first :: later => trimLeft first :: later.map (List.drop ((margin? later).getD 0))

/-- The text of a block as if it stood at the left edge. -/
def unindent (cs : List Char) : List Char :=
  joinNewlines (dropEmptyEnds (removeMargin (splitNewlines (expandTabs cs))))

end Schematic.Text
