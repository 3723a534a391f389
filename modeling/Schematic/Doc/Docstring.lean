import Schematic.Doc.Symbol
import Schematic.Text.Margin
import Schematic.Text.WordChar

/-!
# Docstrings

A docstring documents a declaration in prose followed by tags. A line that
starts with `@` and a name opens a tag; the lines up to the next tag are its
text. The prose in front of the first tag is the description. The margin of the
docstring is removed before its lines are looked at, and blanks around the
description and around each tag's text do not count.
-/

namespace Schematic.Docstring

open Text

/-- A tag's name starts with an ASCII letter or the underscore. -/
def isTagStart (c : Char) : Bool :=
  c.isAlpha || c = '_'

def isTagChar (c : Char) : Bool :=
  isWordChar c || c = '.' || c = '-'

/-- The name and the text of a line that opens a tag; the line has no blanks at its ends. -/
def tagLine? : List Char → Option (List Char × List Char)
  | '@' :: c :: rest =>
    if isTagStart c then
      let name := c :: rest.takeWhile isTagChar
      match rest.dropWhile isTagChar with
      | [] => some (name, [])
      | after :: text => if isBlank after then some (name, trimLeft text) else none
    else none
  | _ => none

/-- The lines in front of the first tag, and each tag's name with its lines. -/
def sections : List (List Char) → List (List Char) × List (List Char × List (List Char))
  | [] => ([], [])
  | line :: rest =>
    let (prose, tags) := sections rest
    match tagLine? (trim line) with
    | some (name, text) => ([], (name, if text.isEmpty then prose else text :: prose) :: tags)
    | none => (line :: prose, tags)

/-- The text of several lines, as fragments: blank text is no fragment. -/
def fragments (lines : List (List Char)) : List String :=
  let text := trim (joinNewlines lines)
  if text.isEmpty then [] else [String.ofList text]

/-- The symbol described by lines without a margin. -/
def ofLines (name : String) (lines : List (List Char)) : Symbol :=
  let (prose, tags) := sections lines
  { name
    documentation := fragments prose
    tags := tags.map fun (tag, lines) => ⟨String.ofList tag, fragments lines⟩ }

/-- The symbol that a docstring describes; a blank docstring describes none. -/
def parse (docstring name : String) : Option Symbol :=
  let cs := docstring.toList
  if (trim cs).isEmpty then none else some (ofLines name (splitLines (unindent cs)))

/-- The symbol of a docstring that may be missing. -/
def parseOption (docstring : Option String) (name : String) : Option Symbol :=
  docstring.bind (parse · name)

end Schematic.Docstring
