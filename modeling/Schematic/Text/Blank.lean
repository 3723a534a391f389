/-!
# Blank characters

The characters that separate words: the space and tab controls, the four
information separators, the next-line control and the Unicode spaces. The
zero-width space and the byte-order mark are not among them. Trimming removes
blanks from one or both ends and nothing else.
-/

namespace Schematic.Text

/-- The code points of the blank characters, as inclusive ranges. -/
def blankRanges : List (Nat × Nat) :=
  [(0x9, 0xD), (0x1C, 0x20), (0x85, 0x85), (0xA0, 0xA0), (0x1680, 0x1680), (0x2000, 0x200A),
    (0x2028, 0x2029), (0x202F, 0x202F), (0x205F, 0x205F), (0x3000, 0x3000)]

/-- Membership of a code point in a list of inclusive ranges. -/
def inRanges (ranges : List (Nat × Nat)) (n : Nat) : Bool :=
  ranges.any fun range => range.1 ≤ n && n ≤ range.2

def isBlank (c : Char) : Bool :=
  inRanges blankRanges c.toNat

def trimLeft (cs : List Char) : List Char :=
  cs.dropWhile isBlank

def trimRight (cs : List Char) : List Char :=
  (cs.reverse.dropWhile isBlank).reverse

def trim (cs : List Char) : List Char :=
  trimRight (trimLeft cs)

/-- The words of a text, which blanks separate. -/
def words (cs : List Char) : List (List Char) :=
  let step (c : Char) (state : List Char × List (List Char)) : List Char × List (List Char) :=
    if isBlank c then ([], if state.1.isEmpty then state.2 else state.1 :: state.2)
    else (c :: state.1, state.2)
  let (first, rest) := cs.foldr step ([], [])
  if first.isEmpty then rest else first :: rest

theorem trimLeft_append_takeWhile (cs : List Char) : cs.takeWhile isBlank ++ trimLeft cs = cs :=
  List.takeWhile_append_dropWhile

theorem trimLeft_of_not_isBlank {c : Char} {cs : List Char} (h : isBlank c = false) :
    trimLeft (c :: cs) = c :: cs := by
  simp [trimLeft, h]

theorem head_trimLeft (cs : List Char) : ∀ c ∈ (trimLeft cs).head?, isBlank c = false := by
  intro c hc
  have hnot := List.head?_dropWhile_not isBlank cs
  unfold trimLeft at hc
  rw [hc] at hnot
  exact hnot

end Schematic.Text
