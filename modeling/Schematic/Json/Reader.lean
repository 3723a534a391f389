import Schematic.Json.Basic

/-!
# Reading JSON

A strict reader of the JSON grammar: blanks are the space, the tab, the newline
and the carriage return; digits are ASCII; control characters may not stand in a
string; nothing may follow the value. The words `NaN` and `Infinity` are no part
of the grammar. A numeral without fraction and exponent is an integer and may
have a limited number of digits only; any other numeral is the nearest double.
A repeated key keeps its first place and its last value.

Each reader takes what it needs from the front of the text and returns the rest.
A container's reader is bounded by the length of the text, which suffices because
each of its steps consumes a character.
-/

namespace Schematic.Json

namespace Reader

def isSpace (c : Char) : Bool :=
  c = ' ' || c = '\t' || c = '\n' || c = '\r'

def skipSpace (cs : List Char) : List Char :=
  cs.dropWhile isSpace

/-! ## Strings -/

/-- The value of an ASCII hexadecimal digit of either case. -/
def hexValue? (c : Char) : Option Nat :=
  if '0' ≤ c ∧ c ≤ '9' then some (c.toNat - '0'.toNat)
  else if 'a' ≤ c ∧ c ≤ 'f' then some (c.toNat - 'a'.toNat + 10)
  else if 'A' ≤ c ∧ c ≤ 'F' then some (c.toNat - 'A'.toNat + 10)
  else none

/-- The UTF-16 unit written by four hexadecimal digits. -/
def unit? (a b c d : Char) : Option Nat := do
  let a ← hexValue? a
  let b ← hexValue? b
  let c ← hexValue? c
  let d ← hexValue? d
  pure (4096 * a + 256 * b + 16 * c + d)

def isHighSurrogate (n : Nat) : Bool := 0xD800 ≤ n && n ≤ 0xDBFF

def isLowSurrogate (n : Nat) : Bool := 0xDC00 ≤ n && n ≤ 0xDFFF

/-- The character of a surrogate pair. -/
def joinSurrogates (high low : Nat) : Char :=
  Char.ofNat (0x10000 + (high - 0xD800) * 0x400 + (low - 0xDC00))

/-- The character denoted by a short escape. -/
def shortEscaped? (c : Char) : Option Char :=
  if c = '\x22' ∨ c = '\x5c' ∨ c = '/' then some c
  else if c = 'n' then some '\n'
  else if c = 'r' then some '\r'
  else if c = 't' then some '\t'
  else if c = 'f' then some '\x0c'
  else if c = 'b' then some '\x08'
  else none

/-- Puts a character in front of a string that was read. -/
def consChar (c : Char) (read : Option (List Char × List Char)) :
    Option (List Char × List Char) :=
  read.map fun (cs, rest) => (c :: cs, rest)

/-- Reads the characters of a string up to its closing quote. -/
def string : List Char → Option (List Char × List Char)
  | [] => none
  | '\x22' :: rest => some ([], rest)
  | '\x5c' :: 'u' :: a :: b :: c :: d :: rest =>
    match unit? a b c d with
    | none => none
    | some unit =>
      if isHighSurrogate unit then
        match rest with
        | '\x5c' :: 'u' :: e :: f :: g :: h :: rest =>
          match unit? e f g h with
          | some low =>
            if isLowSurrogate low then consChar (joinSurrogates unit low) (string rest) else none
          | none => none
        | _ => none
      else if isLowSurrogate unit then none
      else consChar (Char.ofNat unit) (string rest)
  | '\x5c' :: letter :: rest =>
    match shortEscaped? letter with
    | some c => consChar c (string rest)
    | none => none
  | c :: rest => if c.toNat < 0x20 ∨ c = '\x5c' then none else consChar c (string rest)

theorem string_closing (rest : List Char) : string ('\x22' :: rest) = some ([], rest) := by
  rw [string]

theorem string_plain {c : Char} (hcontrol : 0x20 ≤ c.toNat) (hquote : c ≠ '\x22')
    (hbackslash : c ≠ '\x5c') (cs : List Char) : string (c :: cs) = consChar c (string cs) := by
  rw [string.eq_def]
  split
  · contradiction
  · rename_i heq
    exact absurd (List.cons.inj heq).1 hquote
  · rename_i heq
    exact absurd (List.cons.inj heq).1 hbackslash
  · rename_i heq
    exact absurd (List.cons.inj heq).1 hbackslash
  · rename_i heq
    obtain ⟨rfl, rfl⟩ := List.cons.inj heq
    rw [if_neg (not_or.mpr ⟨by omega, hbackslash⟩)]

/-! ## Numbers -/

/-- The digits at the front, of which there has to be one. -/
def digits? (cs : List Char) : Option (List Char × List Char) :=
  let digits := cs.takeWhile Char.isDigit
  if digits.isEmpty then none else some (digits, cs.dropWhile Char.isDigit)

/-- The digits of the integral part: a zero alone, or digits not starting with zero. -/
def whole? : List Char → Option (List Char × List Char)
  | '0' :: rest => some (['0'], rest)
  | cs => digits? cs

/-- The digits after a point. -/
def fraction? : List Char → Option (List Char × List Char)
  | '.' :: rest => digits? rest
  | _ => none

def signedDigits? : List Char → Option ((Bool × List Char) × List Char)
  | '-' :: rest => (digits? rest).map fun (digits, rest) => ((true, digits), rest)
  | '+' :: rest => (digits? rest).map fun (digits, rest) => ((false, digits), rest)
  | cs => (digits? cs).map fun (digits, rest) => ((false, digits), rest)

/-- The sign and digits of an exponent. -/
def exponent? : List Char → Option ((Bool × List Char) × List Char)
  | 'e' :: rest => signedDigits? rest
  | 'E' :: rest => signedDigits? rest
  | _ => none

def natValue (digits : List Char) : Nat :=
  Nat.ofDigitChars 10 digits 0

def signedValue (negative : Bool) (n : Nat) : Int :=
  if negative then -(n : Int) else n

/-- The value of a numeral's parts. -/
def numeral (negative : Bool) (whole : List Char) (fraction : Option (List Char))
    (exponent : Option (Bool × List Char)) : Option Json :=
  match fraction, exponent with
  | none, none =>
    if integerDigitLimit < whole.length then none
    else some (.int (signedValue negative (natValue whole)))
  | _, _ =>
    let fraction := fraction.getD []
    let exponent := (exponent.map fun (negative, digits) =>
      signedValue negative (natValue digits)).getD 0
    let digits := natValue (whole ++ fraction)
    some (.float (Double.ofDecimal negative digits (exponent - fraction.length)))

def optional {α : Type} (read : List Char → Option (α × List Char)) (cs : List Char) :
    Option α × List Char :=
  match read cs with
  | some (a, rest) => (some a, rest)
  | none => (none, cs)

def unsigned (negative : Bool) (cs : List Char) : Option (Json × List Char) := do
  let (whole, rest) ← whole? cs
  let (fraction, rest) := optional fraction? rest
  let (exponent, rest) := optional exponent? rest
  let value ← numeral negative whole fraction exponent
  pure (value, rest)

def number : List Char → Option (Json × List Char)
  | '-' :: rest => unsigned true rest
  | cs => unsigned false cs

/-! ## Values -/

/-- Reads a given word as a given value. -/
def word (text : List Char) (value : Json) (cs : List Char) : Option (Json × List Char) :=
  if text.isPrefixOf cs then some (value, cs.drop text.length) else none

mutual

/-- Reads the value at the front of the text. -/
def value : Nat → List Char → Option (Json × List Char)
  | 0, _ => none
  | fuel + 1, cs =>
    match cs with
    | '\x22' :: rest => (string rest).map fun (s, rest) => (.str (String.ofList s), rest)
    | '[' :: rest =>
      match skipSpace rest with
      | ']' :: rest => some (.arr [], rest)
      | rest => (items fuel rest).map fun (items, rest) => (.arr items, rest)
    | '\x7b' :: rest =>
      match skipSpace rest with
      | '\x7d' :: rest => some (.obj [], rest)
      | rest => (fields fuel rest).map fun (fields, rest) => (.obj (Dict.ofList fields), rest)
    | 'n' :: _ => word "null".toList .null cs
    | 't' :: _ => word "true".toList (.bool true) cs
    | 'f' :: _ => word "false".toList (.bool false) cs
    | cs => number cs

/-- Reads the items of an array from the first item to the closing bracket. -/
def items : Nat → List Char → Option (List Json × List Char)
  | 0, _ => none
  | fuel + 1, cs =>
    match value fuel cs with
    | none => none
    | some (item, rest) =>
      match skipSpace rest with
      | ',' :: rest => (items fuel (skipSpace rest)).map fun (items, rest) => (item :: items, rest)
      | ']' :: rest => some ([item], rest)
      | _ => none

/-- Reads the fields of an object from the first key to the closing brace. -/
def fields : Nat → List Char → Option (List (String × Json) × List Char)
  | 0, _ => none
  | fuel + 1, cs =>
    match cs with
    | '\x22' :: rest =>
      match string rest with
      | none => none
      | some (key, rest) =>
        match skipSpace rest with
        | ':' :: rest =>
          match value fuel (skipSpace rest) with
          | none => none
          | some (item, rest) =>
            let field := (String.ofList key, item)
            match skipSpace rest with
            | ',' :: rest =>
              (fields fuel (skipSpace rest)).map fun (fields, rest) => (field :: fields, rest)
            | '\x7d' :: rest => some ([field], rest)
            | _ => none
        | _ => none
    | _ => none

end

section Steps

attribute [local simp] value items fields

variable {fuel : Nat} {cs rest rest' : List Char} {c : Char} {item : Json}

theorem value_quote : value (fuel + 1) ('\x22' :: cs) =
    (string cs).map fun (s, rest) => (.str (String.ofList s), rest) := by
  simp

theorem value_of_ne (h : ∀ d ∈ ['\x22', '[', '\x7b', 'n', 't', 'f'], c ≠ d) :
    value (fuel + 1) (c :: cs) = number (c :: cs) := by
  rw [value.eq_def]
  dsimp only
  split
  all_goals first | rfl | exact absurd (List.cons.inj ‹_›).1 (h _ (by decide))

theorem value_array_empty (h : skipSpace cs = ']' :: rest) :
    value (fuel + 1) ('[' :: cs) = some (.arr [], rest) := by
  simp [h]

theorem value_array_of_ne (h : skipSpace cs = c :: rest) (hc : c ≠ ']') :
    value (fuel + 1) ('[' :: cs) =
      (items fuel (c :: rest)).map fun (items, rest) => (.arr items, rest) := by
  rw [value]
  split
  · rename_i heq
    exact absurd (List.cons.inj (h.symm.trans heq)).1 hc
  · rw [h]

theorem value_object_empty (h : skipSpace cs = '\x7d' :: rest) :
    value (fuel + 1) ('\x7b' :: cs) = some (.obj [], rest) := by
  simp [h]

theorem value_object_of_ne (h : skipSpace cs = c :: rest) (hc : c ≠ '\x7d') :
    value (fuel + 1) ('\x7b' :: cs) =
      (fields fuel (c :: rest)).map fun (fields, rest) => (.obj (Dict.ofList fields), rest) := by
  rw [value]
  split
  · rename_i heq
    exact absurd (List.cons.inj (h.symm.trans heq)).1 hc
  · rw [h]

theorem items_last (hitem : value fuel cs = some (item, rest))
    (hclosing : skipSpace rest = ']' :: rest') :
    items (fuel + 1) cs = some ([item], rest') := by
  simp [hitem, hclosing]

theorem items_next (hitem : value fuel cs = some (item, rest))
    (hcomma : skipSpace rest = ',' :: rest') :
    items (fuel + 1) cs =
      (items fuel (skipSpace rest')).map fun (items, rest) => (item :: items, rest) := by
  simp [hitem, hcomma]

variable {key afterKey afterColon : List Char} (hkey : string cs = some (key, afterKey))
  (hcolon : skipSpace afterKey = ':' :: afterColon)
  (hitem : value fuel (skipSpace afterColon) = some (item, rest))

include hkey hcolon hitem

theorem fields_last (hclosing : skipSpace rest = '\x7d' :: rest') :
    fields (fuel + 1) ('\x22' :: cs) = some ([(String.ofList key, item)], rest') := by
  simp [hkey, hcolon, hitem, hclosing]

theorem fields_next (hcomma : skipSpace rest = ',' :: rest') :
    fields (fuel + 1) ('\x22' :: cs) = (fields fuel (skipSpace rest')).map
      fun (fields, rest) => ((String.ofList key, item) :: fields, rest) := by
  simp [hkey, hcolon, hitem, hcomma]

end Steps

end Reader

/-- The value that a text denotes, if the text is JSON. -/
def read? (cs : List Char) : Option Json :=
  match Reader.value (cs.length + 1) (Reader.skipSpace cs) with
  | some (value, rest) => if (Reader.skipSpace rest).isEmpty then some value else none
  | none => none

end Schematic.Json
