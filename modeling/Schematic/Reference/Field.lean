import Schematic.Reference.Token

/-!
# Fields in texts

A text with fields is literal text in turn with fields in braces; a doubled brace
is a literal one. A field holds an expression, which may be shown together with
its text, a conversion and a format. The format is a text with fields in turn,
but knows no doubled braces. The expression ends at the first mark that stands in
none of its brackets and quotes.
-/

namespace Schematic.Field

open Json.Reader (consChar)

/-- The text of a field's expression and the rest from the character that ends it, given the
brackets that are open and the quote, if one is. -/
def expressionText : List Char → Option Char → List Char → Option (List Char × List Char)
  | _, _, [] => none
  | opened, some quote, c :: rest =>
    if c = '\x5c' then none
    else consChar c (expressionText opened (if c = quote then none else some quote) rest)
  | opened, none, c :: rest =>
    if c = '\x5c' ∨ c = '#' then none
    else if Token.isQuote c then consChar c (expressionText opened (some c) rest)
    else if c = '(' ∨ c = '[' ∨ c = '\x7b' then consChar c (expressionText (c :: opened) none rest)
    else if c = ')' ∨ c = ']' ∨ (c = '\x7d' ∧ opened ≠ []) then
      match opened with
      | _ :: outer => consChar c (expressionText outer none rest)
      | [] => none
    else if opened ≠ [] then consChar c (expressionText opened none rest)
    else if c = '\x7d' ∨ c = ':' then some ([], c :: rest)
    else if c = '!' ∨ c = '=' ∨ c = '<' ∨ c = '>' then
      match rest with
      | '=' :: after => consChar c (consChar '=' (expressionText [] none after))
      | rest =>
        if c = '!' ∨ c = '=' then some ([], c :: rest)
        else consChar c (expressionText [] none rest)
    else consChar c (expressionText [] none rest)

/-- Where literal text stands: in a text or in the format of a field. -/
structure Place where
  isRaw : Bool
  isFormat : Bool

/-- The literal text up to the next field, or up to the end of a format, and the rest; `named`
tells that the name of a character is being spelled, whose braces are no field's. -/
def literalText (place : Place) (named : Bool) : List Char → Option (List Char × List Char)
  | [] => if place.isFormat || named then none else some ([], [])
  | '\x5c' :: 'N' :: '\x7b' :: rest =>
    if place.isRaw || named then none
    else consChar '\x5c' (consChar 'N' (consChar '\x7b' (literalText place true rest)))
  | c :: rest =>
    if named then consChar c (literalText place (c ≠ '\x7d') rest)
    else if c = '\x7b' ∨ c = '\x7d' then
      match rest with
      | d :: after =>
        if c = d ∧ !place.isFormat then consChar c (literalText place false after)
        else if c = '\x7b' ∨ place.isFormat then some ([], c :: rest)
        else none
      | [] => if place.isFormat then some ([], [c]) else none
    else consChar c (literalText place false rest)

/-- The conversion after an expression, if there is one. -/
def conversion? : List Char → Option (Option Char × List Char)
  | '!' :: c :: rest => if c = 's' ∨ c = 'r' ∨ c = 'a' then some (some c, rest) else none
  | ['!'] => none
  | cs => some (none, cs)

/-- Whether a text is blank, so that it holds no expression. -/
def isBlankText (cs : List Char) : Bool :=
  cs.all fun c => Token.isBlankBetween c || c = '\n'

end Schematic.Field
