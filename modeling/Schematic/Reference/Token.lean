import Schematic.Reference.Numeral
import Schematic.Reference.Quotation
import Schematic.Text.DecimalDigit
import Schematic.Text.NameChar

/-!
# Tokens of expressions

A text is cut into tokens, longest first. Blanks and comments may stand between
tokens, and a line goes on after a backslash at its end and between brackets.
Otherwise the expression ends with its line, and only empty lines may follow.
Empty lines may go before it as well, but its own line is not indented.
-/

namespace Schematic

inductive Token where
  | word (name : String)
  /-- A word that is no name. -/
  | keyword (name : String)
  | constant (value : Value)
  | text (content : List Char)
  | bytes (content : List Char)
  /-- A text with fields, which are not read yet. -/
  | formatted (isRaw : Bool) (content : List Char)
  | mark (symbol : String)
  deriving Inhabited

namespace Token

open Text

def isBlankBetween (c : Char) : Bool :=
  c = ' ' || c = '\t' || c = '\x0c'

/-- Marks, the longer ones first. -/
def marks : List String :=
  ["...", "**", "//", "<<", ">>", "<=", ">=", "==", "!=", ":=", "(", ")", "[", "]", "\x7b", "\x7d",
    ",", ":", ".", "|", "^", "&", "+", "-", "*", "/", "%", "@", "~", "<", ">", "="]

def keywords : List String :=
  ["and", "as", "assert", "async", "await", "break", "class", "continue", "def", "del", "elif",
    "else", "except", "finally", "for", "from", "global", "if", "import", "in", "is", "lambda",
    "nonlocal", "not", "or", "pass", "raise", "return", "try", "while", "with", "yield"]

def ofWord (cs : List Char) : Token :=
  match String.ofList cs with
  | "None" => constant .none
  | "True" => constant (.bool true)
  | "False" => constant (.bool false)
  | name =>
    if keywords.contains name then keyword name else word (String.ofList (cs.map plainForm))

/-- The token of a quotation after the given letters, and what follows it. -/
def ofQuotation? (letters : String) (cs : List Char) : Option (Token × List Char) := do
  let (content, rest) ← Quotation.read? cs
  match letters with
  | "" | "u" => (Quotation.text? false content).map (text ·, rest)
  | "r" => (Quotation.text? true content).map (text ·, rest)
  | "b" => (Quotation.bytes? false content).map (bytes ·, rest)
  | "br" | "rb" => (Quotation.bytes? true content).map (bytes ·, rest)
  | "f" => some (formatted false content, rest)
  | "fr" | "rf" => some (formatted true content, rest)
  | _ => none

def isQuote (c : Char) : Bool :=
  c = '\x27' || c = '\x22'

def startsQuotation (cs : List Char) : Bool :=
  (cs.head?.map isQuote).getD false

/-- Whether a numeral starts at the front. -/
def startsNumeral : List Char → Bool
  | '.' :: c :: _ => c.isDigit
  | c :: _ => c.isDigit
  | [] => false

/-- A word, or a quotation with letters before it. -/
def readWord? (cs : List Char) : Option (Token × List Char) :=
  let name := cs.takeWhile isWordChar
  let rest := cs.dropWhile isWordChar
  if startsQuotation rest then ofQuotation? (String.ofList (name.map Char.toLower)) rest
  else if name.all isNameChar then some (ofWord name, rest)
  else none

/-- The token at the front of a text that does not start with a blank. -/
def read? (cs : List Char) : Option (Token × List Char) :=
  match cs with
  | [] => none
  | c :: _ =>
    if startsNumeral cs then
      (Numeral.read? cs).map fun (value, rest) => (constant value, rest)
    else if isWordChar c && !isDecimalDigit c then readWord? cs
    else if isQuote c then ofQuotation? "" cs
    else
      (marks.find? fun symbol => symbol.toList.isPrefixOf cs).map fun symbol =>
        (mark symbol, cs.drop symbol.length)

/-- The text after a comment. -/
def afterComment (cs : List Char) : List Char :=
  cs.dropWhile (· ≠ '\n')

/-- Whether a text consists of empty lines, some with comments. -/
def isEmptyLines : Nat → List Char → Bool
  | 0, cs => cs.isEmpty
  | steps + 1, cs =>
    match cs.dropWhile isBlankBetween with
    | [] => true
    | '#' :: rest => isEmptyLines steps (afterComment rest)
    | '\n' :: rest => isEmptyLines steps rest
    | _ => false

/-- How many brackets are open after a token, given how many are before it. -/
def depthAfter (depth : Nat) : Token → Nat
  | mark "(" | mark "[" | mark "\x7b" => depth + 1
  | mark ")" | mark "]" | mark "\x7d" => depth - 1
  | _ => depth

/-- All tokens of a text, given how many brackets are open before it. -/
def readAll? : Nat → Nat → List Char → Option (List Token)
  | 0, _, cs => if (cs.dropWhile isBlankBetween).isEmpty then some [] else none
  | steps + 1, depth, cs =>
    match cs.dropWhile isBlankBetween with
    | [] => some []
    | '#' :: rest => readAll? steps depth (afterComment rest)
    | '\n' :: rest =>
      if 0 < depth then readAll? steps depth rest
      else if isEmptyLines rest.length rest then some []
      else none
    | '\x5c' :: '\n' :: rest => if rest.isEmpty then none else readAll? steps depth rest
    | cs => do
      let (token, rest) ← read? cs
      let tokens ← readAll? steps (depthAfter depth token) rest
      pure (token :: tokens)

/-- A text with the newline alone as its line end. -/
def withNewlines : List Char → List Char
  | '\r' :: '\n' :: rest => '\n' :: withNewlines rest
  | '\r' :: rest => '\n' :: withNewlines rest
  | c :: rest => c :: withNewlines rest
  | [] => []

/-- The text from its first line that is not empty. -/
def fromFirstLine : Nat → List Char → List Char
  | 0, cs => cs
  | steps + 1, cs =>
    match cs.dropWhile isBlankBetween with
    | '#' :: rest => fromFirstLine steps (afterComment rest)
    | '\n' :: rest => fromFirstLine steps rest
    | _ => cs

/-- Whether a text starts with an indentation; a form feed starts the line anew. -/
def isIndented (cs : List Char) : Bool :=
  !((cs.takeWhile isBlankBetween).reverse.takeWhile (· ≠ '\x0c')).isEmpty

/-- The tokens of an expression's text. -/
def ofText? (cs : List Char) : Option (List Token) :=
  let cs := withNewlines cs
  let cs := fromFirstLine cs.length cs
  if isIndented cs || cs.contains '\x00' then none else readAll? cs.length 0 cs

/-- The tokens of an expression inside brackets. -/
def ofInnerText? (cs : List Char) : Option (List Token) :=
  readAll? cs.length 1 cs

end Token

end Schematic
