import Schematic.Annotation.Object

/-!
# Objects in texts

An object is shown in a text by its own form; a text is shown as it is, and a
member of an enumeration by the names of both, unless its enumeration writes
members as the values they stand for. A format gives a width, which side the text
is set to, what fills the rest, and for texts a greatest length.
-/

namespace Schematic.Formatting

open Annotation

/-- The text of an object. -/
def text : Annotation → List Char
  | value v => v.text
  | t => t.display

/-- A text with escapes for all characters outside ASCII. -/
def inAscii (cs : List Char) : List Char :=
  cs.flatMap fun c => if c.toNat < 0x80 then [c] else Text.codeEscape c

/-- The text of an object under a conversion. -/
def converted (conversion : Char) (t : Annotation) : List Char :=
  if conversion = 'r' then t.display
  else if conversion = 'a' then inAscii t.display
  else text t

inductive Side where
  | left
  | right
  | center
  deriving DecidableEq, Repr

def sideOf? : Char → Option Side
  | '<' => some .left
  | '>' => some .right
  | '^' => some .center
  | _ => none

/-- A format of texts and integers. -/
structure Format where
  fill : Char
  side : Option Side
  width : Nat
  precision : Option Nat
  kind : Option Char

/-- A number at the front of a format. -/
def number (cs : List Char) : Option Nat × List Char :=
  let digits := cs.takeWhile Char.isDigit
  (if digits.isEmpty then none else some (Nat.ofDigitChars 10 digits 0), cs.dropWhile Char.isDigit)

/-- The format that a text describes. -/
def format? (cs : List Char) : Option Format :=
  let (fill, side, rest) :=
    match cs with
    | c :: d :: rest =>
      match sideOf? d, sideOf? c with
      | some side, _ => (c, some side, rest)
      | none, some side => (' ', some side, d :: rest)
      | none, none => (' ', none, c :: d :: rest)
    | [c] =>
      match sideOf? c with
      | some side => (' ', some side, [])
      | none => (' ', none, [c])
    | [] => (' ', none, [])
  let (width, rest) := number rest
  let (precision, rest) :=
    match rest with
    | '.' :: rest => number rest
    | rest => (none, rest)
  match rest with
  | [] => some ⟨fill, side, width.getD 0, precision, none⟩
  | [kind] => some ⟨fill, side, width.getD 0, precision, some kind⟩
  | _ => none

/-- A text set within a width. -/
def padded (format : Format) (usual : Side) (cs : List Char) : List Char :=
  let rest := format.width - cs.length
  let before :=
    match format.side.getD usual with
    | .left => 0
    | .right => rest
    | .center => rest / 2
  List.replicate before format.fill ++ cs ++ List.replicate (rest - before) format.fill

/-- The digits of an integer in the base that a kind of format stands for. -/
def digits? (kind : Option Char) (n : Int) : Option (List Char) :=
  let inBase (base : Nat) : List Char :=
    (if n < 0 then ['-'] else []) ++ Nat.toDigits base n.natAbs
  match kind with
  | none | some 'd' => some (inBase 10)
  | some 'x' => some (inBase 16)
  | some 'o' => some (inBase 8)
  | some 'b' => some (inBase 2)
  | _ => none

/-- An object as it is put into a format: a member that is written as its value is that value. -/
def bare : Annotation → Annotation
  | value (.member owner name v) => value (if owner.isBare then v else .member owner name v)
  | t => t

/-- The text of an object under a format; without one it is the object's own text. -/
def formatted (description : List Char) (t : Annotation) : Except Failure (List Char) :=
  if description.isEmpty then .ok (text t)
  else
    match bare t with
    | value (.int n) =>
      match (format? description).bind fun format => (digits? format.kind n).map (format, ·) with
      | some (format, cs) => .ok (padded format .right cs)
      | none => .error .unacceptable
    | value (.str _) | value (.member ..) =>
      match format? description with
      | some format =>
        if format.kind = none || format.kind = some 's' then
          let cs := text t
          .ok (padded format .left (cs.take (format.precision.getD cs.length)))
        else .error .unacceptable
      | none => .error .unacceptable
    | value (.float _) | value (.bool _) | value (.complex ..) => .error .unacceptable
    | t =>
      let owner := t.classOf.name
      .error (.typeFault ("unsupported format string passed to " ++ owner ++ ".__format__"))

end Schematic.Formatting
