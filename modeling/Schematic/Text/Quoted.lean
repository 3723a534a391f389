import Schematic.Text.Printable

/-!
# Quoted text

The literal form of a text in the annotation language. The quote is single,
unless the text has single quotes and no double ones. The quote, the backslash
and what is not printable are escaped; text of bytes escapes everything outside
ASCII.
-/

namespace Schematic.Text

/-- The quote that a literal is written with. -/
def quoteFor (cs : List Char) : Char :=
  if cs.contains '\x27' && !cs.contains '\x22' then '\x22' else '\x27'

/-- The last digits of a number in base sixteen, so many of them. -/
def hexDigits : Nat → Nat → List Char
  | 0, _ => []
  | count + 1, n => hexDigits count (n / 16) ++ [Nat.digitChar (n % 16)]

def codeEscape (c : Char) : List Char :=
  let n := c.toNat
  if n < 0x100 then ['\x5c', 'x'] ++ hexDigits 2 n
  else if n < 0x10000 then ['\x5c', 'u'] ++ hexDigits 4 n
  else ['\x5c', 'U'] ++ hexDigits 8 n

/-- A character inside a literal, of which the given ones need no escape. -/
def quotedChar (plain : Char → Bool) (quote c : Char) : List Char :=
  if c = quote ∨ c = '\x5c' then ['\x5c', c]
  else if c = '\n' then ['\x5c', 'n']
  else if c = '\r' then ['\x5c', 'r']
  else if c = '\t' then ['\x5c', 't']
  else if plain c then [c]
  else codeEscape c

def quotedWith (plain : Char → Bool) (cs : List Char) : List Char :=
  let quote := quoteFor cs
  quote :: cs.flatMap (quotedChar plain quote) ++ [quote]

def quoted (cs : List Char) : List Char :=
  quotedWith isPrintable cs

def quotedBytes (cs : List Char) : List Char :=
  'b' :: quotedWith (fun c => 0x20 ≤ c.toNat && c.toNat < 0x7F) cs

/-- A text without any occurrence of a pattern, taken from the left. -/
def removeAll (pattern : List Char) : Nat → List Char → List Char
  | 0, cs => cs
  | _, [] => []
  | fuel + 1, c :: rest =>
    if pattern.isPrefixOf (c :: rest) then removeAll pattern fuel ((c :: rest).drop pattern.length)
    else c :: removeAll pattern fuel rest

end Schematic.Text
