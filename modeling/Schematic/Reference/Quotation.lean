import Schematic.Json.Reader
import Schematic.Text.CharacterName

/-!
# Quoted texts in expressions

A quotation stands between single or double quotes, one or three of a kind; one
of a single quote ends within its line. A backslash keeps the next character from
ending it. In a raw quotation that is all a backslash does; in any other one it
starts an escape, which stands for another character or, before a line's end, for
nothing. An escape that is not known stands for itself.
-/

namespace Schematic.Quotation

open Json.Reader (consChar hexValue?)

/-- The content up to the closing quotes, and what follows them. -/
def content (quote : Char) (long : Bool) : List Char → Option (List Char × List Char)
  | [] => none
  | '\x5c' :: c :: rest => consChar '\x5c' (consChar c (content quote long rest))
  | c :: rest =>
    if c = quote then
      if !long then some ([], rest)
      else
        match rest with
        | d :: e :: after =>
          if d = quote && e = quote then some ([], after)
          else consChar c (content quote long rest)
        | _ => none
    else if c = '\n' && !long then none
    else consChar c (content quote long rest)

/-- The content of the quotation at the front of a text, and what follows it. -/
def read? : List Char → Option (List Char × List Char)
  | a :: b :: c :: rest =>
    if a = b && b = c then content a true rest else content a false (b :: c :: rest)
  | a :: rest => content a false rest
  | [] => none

/-- The number that some hexadecimal digits denote. -/
def hexNumber? (ds : List Char) : Option Nat :=
  ds.foldl (fun n c => n.bind fun n => (hexValue? c).map (16 * n + ·)) (some 0)

def isOctal (c : Char) : Bool := '0' ≤ c && c ≤ '7'

def octalNumber (ds : List Char) : Nat :=
  ds.foldl (fun n c => 8 * n + (c.toNat - 0x30)) 0

/-- The character after a backslash, where it stands for one other character. -/
def escaped? (c : Char) : Option Char :=
  match c with
  | '\x5c' | '\x27' | '\x22' => some c
  | 'a' => some '\x07'
  | 'b' => some '\x08'
  | 'f' => some '\x0c'
  | 'n' => some '\n'
  | 'r' => some '\r'
  | 't' => some '\t'
  | 'v' => some '\x0b'
  | _ => none

/-- The length of an escape with a fixed number of hexadecimal digits; bytes have the first only. -/
def codeLength? (isBytes : Bool) (c : Char) : Option Nat :=
  if c = 'x' then some 2
  else if isBytes then none
  else if c = 'u' then some 4
  else if c = 'U' then some 8
  else none

/-- The character of a code, if there may be one. -/
def characterOfCode? (n : Nat) : Option Char :=
  if n < 0x110000 then some (Char.ofNat n) else none

/-- What an escape stands for, given the text after its backslash, and the text after it. -/
def escape? (isBytes : Bool) : List Char → Option (List Char × List Char)
  | [] => none
  | '\n' :: rest => some ([], rest)
  | c :: rest =>
    match escaped? c, codeLength? isBytes c with
    | some c, _ => some ([c], rest)
    | none, some count => do
      if rest.length < count then none
      else
        let n ← hexNumber? (rest.take count)
        let c ← characterOfCode? n
        pure ([c], rest.drop count)
    | none, none =>
      if isOctal c then
        let ds := ((c :: rest).take 3).takeWhile isOctal
        let n := octalNumber ds
        some ([Char.ofNat (if isBytes then n % 256 else n)], (c :: rest).drop ds.length)
      else if c = 'N' && !isBytes then
        match rest with
        | '\x7b' :: rest =>
          match rest.dropWhile (· ≠ '\x7d') with
          | _ :: after => (Text.characterOfName? (rest.takeWhile (· ≠ '\x7d'))).map ([·], after)
          | [] => none
        | _ => none
      else some (['\x5c', c], rest)

/-- A content with its escapes replaced; each step takes at least one character. -/
def unescapeWithin (isBytes : Bool) : Nat → List Char → Option (List Char)
  | 0, cs => if cs.isEmpty then some [] else none
  | _, [] => some []
  | steps + 1, '\x5c' :: rest => do
    let (cs, rest) ← escape? isBytes rest
    let others ← unescapeWithin isBytes steps rest
    pure (cs ++ others)
  | steps + 1, c :: rest => (unescapeWithin isBytes steps rest).map (c :: ·)

def unescape? (isBytes : Bool) (cs : List Char) : Option (List Char) :=
  unescapeWithin isBytes cs.length cs

/-- The content of a quotation as text. -/
def text? (isRaw : Bool) (cs : List Char) : Option (List Char) :=
  if isRaw then some cs else unescape? false cs

/-- The content of a quotation as bytes, which are written in ASCII. -/
def bytes? (isRaw : Bool) (cs : List Char) : Option (List Char) :=
  if cs.any fun c => 0x80 ≤ c.toNat then none
  else if isRaw then some cs
  else unescape? true cs

end Schematic.Quotation
