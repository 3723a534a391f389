/-!
# Encodings

An encoding writes a text as bytes, and reads bytes as a text, where it can. Bytes
are given as characters, one for each byte.
-/

namespace Schematic.Text

inductive Encoding where
  | utf8
  | latin1
  | ascii
  deriving DecidableEq, Repr

namespace Encoding

/-- The names of an encoding. -/
def names : Encoding → List String
  | utf8 => ["utf-8", "utf8", "utf", "u8"]
  | latin1 => ["latin-1", "latin1", "latin", "iso-8859-1", "iso8859-1", "8859", "l1"]
  | ascii => ["ascii", "us-ascii", "646"]

/-- The encoding with a name, in which case does not count and an underscore is a hyphen. -/
def ofName? (name : String) : Option Encoding :=
  let name := String.ofList (name.toList.map fun c => if c = '_' then '-' else c.toLower)
  [utf8, latin1, ascii].find? fun encoding => encoding.names.contains name

/-- The characters below a bound, if all are. -/
def below? (bound : Nat) (s : String) : Option String :=
  if s.toList.all fun c => c.toNat < bound then some s else none

/-- The bytes of a text. -/
def encode? : Encoding → String → Option String
  | utf8, s => some (String.ofList (s.toUTF8.toList.map fun byte => Char.ofNat byte.toNat))
  | latin1, s => below? 0x100 s
  | ascii, s => below? 0x80 s

/-- The text of bytes. -/
def decode? : Encoding → String → Option String
  | utf8, s => String.fromUTF8? ⟨(s.toList.map fun c => c.toNat.toUInt8).toArray⟩
  | latin1, s => some s
  | ascii, s => below? 0x80 s

end Encoding

end Schematic.Text
