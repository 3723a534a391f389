import Schematic.Json.Basic
import Schematic.Number.Layout

/-!
# Written JSON

Written text is printable ASCII: every other character, and the quote and the
backslash, is escaped, characters above the basic plane as two surrogate units.
Spacing is either inline, with a blank after each comma, or indented, with each
item of a container on a line of its own. A value with an integer of too many
digits has no text.
-/

namespace Schematic.Json

/-- Four lower-case hexadecimal digits. -/
def hex4 (n : Nat) : List Char :=
  [n / 4096 % 16, n / 256 % 16, n / 16 % 16, n % 16].map Nat.digitChar

def unitEscape (n : Nat) : List Char :=
  ['\x5c', 'u'] ++ hex4 n

/-- The UTF-16 units of a character outside printable ASCII, each escaped. -/
def unicodeEscape (c : Char) : List Char :=
  let n := c.toNat
  if n < 0x10000 then unitEscape n
  else unitEscape (0xD800 + (n - 0x10000) / 0x400) ++ unitEscape (0xDC00 + (n - 0x10000) % 0x400)

/-- The letter of a control character with a short escape. -/
def shortEscape? (c : Char) : Option Char :=
  if c = '\n' then some 'n'
  else if c = '\r' then some 'r'
  else if c = '\t' then some 't'
  else if c = '\x0c' then some 'f'
  else if c = '\x08' then some 'b'
  else if c = '\x22' then some '\x22'
  else if c = '\x5c' then some '\x5c'
  else none

def escape (c : Char) : List Char :=
  match shortEscape? c with
  | some letter => ['\x5c', letter]
  | none => if 0x20 ≤ c.toNat ∧ c.toNat ≤ 0x7E then [c] else unicodeEscape c

def quoted (cs : List Char) : List Char :=
  '\x22' :: cs.flatMap escape ++ ['\x22']

def integerText (n : Int) : List Char :=
  Double.Layout.signed (n < 0) (Nat.toDigits 10 n.natAbs)

/-- Where the items of a container stand: on one line, or each indented on its own. -/
inductive Spacing where
  | inline
  | indented (width : Nat)

/-- The line break in front of an item at the given depth. -/
def Spacing.lineBreak : Spacing → Nat → List Char
  | inline, _ => []
  | indented width, depth => '\n' :: List.replicate (width * depth) ' '

/-- What stands between two items at the given depth. -/
def Spacing.separator : Spacing → Nat → List Char
  | inline, _ => [',', ' ']
  | indented width, depth => ',' :: (indented width).lineBreak depth

/-- A container's items, already written, between its brackets. -/
def Spacing.enclose (spacing : Spacing) (depth : Nat) (opening closing : Char)
    (items : List (List Char)) : List Char :=
  if items.isEmpty then [opening, closing]
  else
    opening :: spacing.lineBreak (depth + 1) ++ (spacing.separator (depth + 1)).intercalate items ++
      spacing.lineBreak depth ++ [closing]

mutual

/-- The text of a value whose container stands at the given depth. -/
def write (spacing : Spacing) (depth : Nat) : Json → List Char
  | null => "null".toList
  | bool true => "true".toList
  | bool false => "false".toList
  | int n => integerText n
  | float x => Double.Layout.document.text x
  | str s => quoted s.toList
  | arr items => spacing.enclose depth '[' ']' (writeItems spacing (depth + 1) items)
  | obj fields => spacing.enclose depth '\x7b' '\x7d' (writeFields spacing (depth + 1) fields)

def writeItems (spacing : Spacing) (depth : Nat) : List Json → List (List Char)
  | [] => []
  | item :: rest => write spacing depth item :: writeItems spacing depth rest

def writeFields (spacing : Spacing) (depth : Nat) : List (String × Json) → List (List Char)
  | [] => []
  | (key, value) :: rest =>
    (quoted key.toList ++ ':' :: ' ' :: write spacing depth value) ::
      writeFields spacing depth rest

end

mutual

/-- Whether no integer in a value is too long to be written. -/
def isWritable : Json → Bool
  | int n => (Nat.toDigits 10 n.natAbs).length ≤ integerDigitLimit
  | arr items => areWritable items
  | obj fields => areFieldsWritable fields
  | _ => true

def areWritable : List Json → Bool
  | [] => true
  | item :: rest => item.isWritable && areWritable rest

def areFieldsWritable : List (String × Json) → Bool
  | [] => true
  | (_, value) :: rest => value.isWritable && areFieldsWritable rest

end

/-- The text of a value with the given spacing. -/
def text (value : Json) (spacing : Spacing := .inline) : String :=
  String.ofList (write spacing 0 value)

end Schematic.Json
