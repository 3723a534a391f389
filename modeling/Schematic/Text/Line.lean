/-!
# Lines of a text

Two notions of a line. Splitting at newlines cuts at the newline character only
and always yields at least one line. Splitting at line boundaries cuts at every
Unicode line separator, takes a carriage return with a following newline as one
boundary, and does not count an empty rest after the last boundary as a line.
-/

namespace Schematic.Text

/-- Adds a character in front of the first line, opening one if there is none. -/
def consToFirst (c : Char) : List (List Char) → List (List Char)
  | [] => [[c]]
  | line :: lines => (c :: line) :: lines

/-- The parts between newline characters. -/
def splitNewlines : List Char → List (List Char)
  | [] => [[]]
  | c :: rest =>
    if c = '\n' then [] :: splitNewlines rest else consToFirst c (splitNewlines rest)

/-- Lines put together again, a newline between each two. -/
def joinNewlines (lines : List (List Char)) : List Char :=
  ['\n'].intercalate lines

def isLineBoundary (c : Char) : Bool :=
  c = '\n' || c = '\r' || c = '\x0b' || c = '\x0c' || c = '\x1c' || c = '\x1d' || c = '\x1e' ||
    c = '\u0085' || c = '\u2028' || c = '\u2029'

/-- The lines of a text, without their boundaries. -/
def splitLines : List Char → List (List Char)
  | [] => []
  | '\r' :: '\n' :: rest => [] :: splitLines rest
  | c :: rest => if isLineBoundary c then [] :: splitLines rest else consToFirst c (splitLines rest)

theorem consToFirst_ne_nil (c : Char) (lines : List (List Char)) : consToFirst c lines ≠ [] := by
  cases lines <;> simp [consToFirst]

theorem splitNewlines_ne_nil (cs : List Char) : splitNewlines cs ≠ [] := by
  cases cs with
  | nil => simp [splitNewlines]
  | cons c rest =>
    unfold splitNewlines
    split
    · simp
    · exact consToFirst_ne_nil c _

end Schematic.Text
