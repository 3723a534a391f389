import Schematic.Annotation.Value
import Schematic.Number.Spelling
import Schematic.Text.Encoding

/-!
# Conversions

What the built-in classes of plain values make of other values. An integer is
made of a double by leaving out its fraction, and of a text that spells it. Every
value has a text. The members of an enumeration that derives from such a class are
made in the same way from the values that they are declared with; there the items
of a tuple are several arguments.
-/

namespace Schematic.Conversion

/-- The failure of more arguments than a class takes. -/
def excess (name : String) (most given : Nat) : Failure :=
  .typeFault (name ++ "() takes at most " ++ toString most ++ " arguments (" ++ toString given ++
    " given)")

/-- The failure of a value of some class where an integer is needed. -/
def notIndex (className : String) : Failure :=
  .typeFault ("'" ++ className ++ "' object cannot be interpreted as an integer")

/-- The characters by which a text or bytes may spell a number. -/
def characters? (v : Value) : Option (List Char) :=
  (v.text?.map Spelling.characters).or (v.bytes?.map fun s => Spelling.trimmed s.toList)

/-! ## Integers -/

def notInteger (className : String) : Failure :=
  .typeFault ("int() argument must be a string, a bytes-like object or a real number, not '" ++
    className ++ "'")

/-- The integral part of a double, without its fraction. -/
def integralPart : Double → Except Failure Int
  | .finite x =>
    let (num, den) := x.ratio
    .ok (Int.tdiv num den)
  | .infinite _ => .error (.overflow "cannot convert float infinity to integer")
  | .nan => .error .unacceptable

def integerOf (v : Value) : Except Failure Int :=
  match v.index?, v.plain, characters? v with
  | some n, _, _ => .ok n
  | none, .float x, _ => integralPart x
  | none, _, some cs => Spelling.integer 10 cs
  | none, _, none => .error (notInteger v.className)

/-- The integer that a text spells in a base. -/
def integerInBase (v base : Value) : Except Failure Int :=
  match base.index?, characters? v with
  | none, _ => .error (notIndex base.className)
  | some n, cs =>
    if n ≠ 0 && (n < 2 || 36 < n) then .error .unacceptable
    else
      match cs with
      | some cs => Spelling.integer n.toNat cs
      | none => .error (.typeFault "int() can't convert non-string with explicit base")

def integer : List Value → Except Failure Value
  | [] => .ok (.int 0)
  | [v] => (integerOf v).map .int
  | [v, base] => (integerInBase v base).map .int
  | args => .error (excess "int" 2 args.length)

/-! ## Doubles and complex numbers -/

def notReal (className : String) : Failure :=
  .typeFault ("float() argument must be a string or a real number, not '" ++ className ++ "'")

/-- The double nearest to an integer; one beyond the doubles has none. -/
def realOfInt (n : Int) : Except Failure Double :=
  let x := Double.ofInt n
  if x.isFinite then .ok x else .error (.overflow "int too large to convert to float")

def realOf (v : Value) : Except Failure Double :=
  match v.index?, v.plain, characters? v with
  | some n, _, _ => realOfInt n
  | none, .float x, _ => .ok x
  | none, _, some cs =>
    match Spelling.real? cs with
    | some x => .ok x
    | none => .error .unacceptable
  | none, _, none => .error (notReal v.className)

def real : List Value → Except Failure Value
  | [] => .ok (.float (.zero false))
  | [v] => (realOf v).map .float
  | args =>
    .error (.typeFault ("float expected at most 1 argument, got " ++ toString args.length))

def notComplex (className : String) : Failure :=
  .typeFault ("complex() first argument must be a string or a number, not '" ++ className ++ "'")

/-- The parts of a number, if the value is one; a number of one part has no other one. -/
def partsOf? (v : Value) : Option (Except Failure (Double × Option Double)) :=
  match v.index?, v.plain with
  | some n, _ => some ((realOfInt n).map (·, none))
  | none, .float x => some (.ok (x, none))
  | none, .complex x y => some (.ok (x, some y))
  | none, _ => none

/-- The sum of a number and another one times the imaginary unit. -/
def complexSum (v w : Value) : Except Failure Value := do
  if v.text?.isSome then
    .error (.typeFault "complex() can't take second arg if first is a string")
  else if w.text?.isSome then .error (.typeFault "complex() second arg can't be a string")
  else
    match partsOf? v, partsOf? w with
    | none, _ => .error (notComplex v.className)
    | _, none =>
      .error (.typeFault ("complex() second argument must be a number, not '" ++ w.className ++
        "'"))
    | some first, some second =>
      let (a, b) ← first
      let (c, d) ← second
      pure (.complex ((d.map a.subtract).getD a) ((b.map c.add).getD c))

def complex : List Value → Except Failure Value
  | [] => .ok (.complex (.zero false) (.zero false))
  | [v] =>
    match v.text?, partsOf? v with
    | some s, _ =>
      match Spelling.complex? (Spelling.characters s) with
      | some (x, y) => .ok (.complex x y)
      | none => .error .unacceptable
    | none, some parts => parts.map fun (x, y) => .complex x (y.getD (.zero false))
    | none, none => .error (notComplex v.className)
  | [v, w] => complexSum v w
  | args => .error (excess "complex" 2 args.length)

/-! ## Texts and bytes -/

/-- The name of the encoding that a class is told, with how to treat errors or without. -/
def encodingName (name : String) (encoding : Value) (errors : Option Value) :
    Except Failure String :=
  let notText (argument : String) (v : Value) : Failure :=
    let shown := if v matches .none then "None" else v.className
    .typeFault (name ++ "() argument '" ++ argument ++ "' must be str, not " ++ shown)
  match encoding.text?, errors.filter fun v => v.text?.isNone with
  | none, _ => .error (notText "encoding" encoding)
  | some _, some errors => .error (notText "errors" errors)
  | some s, none => .ok s

/-- The outcome of reading or writing in an encoding, where it is known. -/
def coded (encoding : String) (run : Text.Encoding → Option String) : Except Failure String :=
  match (Text.Encoding.ofName? encoding).bind run with
  | some s => .ok s
  | none => .error .unacceptable

/-- The text of bytes in an encoding. -/
def decoded (v encoding : Value) (errors : Option Value) : Except Failure Value := do
  let encoding ← encodingName "str" encoding errors
  match v.plain with
  | .bytes s => (coded encoding (·.decode? s)).map .str
  | .str _ => .error (.typeFault "decoding str is not supported")
  | _ =>
    .error (.typeFault ("decoding to str: need a bytes-like object, " ++ v.className ++ " found"))

def text : List Value → Except Failure Value
  | [] => .ok (.str "")
  | [v] => .ok (.str (String.ofList v.text))
  | [v, encoding] => decoded v encoding none
  | [v, encoding, errors] => decoded v encoding (some errors)
  | args => .error (excess "str" 3 args.length)

/-- Why arguments are refused where nothing but texts is taken, if they are. -/
def strictRefusal? (args : List Value) : Option String :=
  let shown (v : Value) : String := String.ofList v.repr
  let unlessText (v : Value) (message : String) : Option String :=
    if v.text?.isSome then none else some message
  let wrongEncoding? (encoding : Value) : Option String :=
    unlessText encoding ("encoding must be a string, not " ++ shown encoding)
  match args with
  | [] => none
  | [v] => unlessText v (shown v ++ " is not a string")
  | [_, encoding] => wrongEncoding? encoding
  | [_, encoding, errors] =>
    (wrongEncoding? encoding).or
      (unlessText errors ("errors must be a string, not " ++ shown errors))
  | args => some ("too many arguments for str(): " ++ shown (.tuple args))

/-- A text made of texts alone. -/
def strictText (args : List Value) : Except Failure Value :=
  match strictRefusal? args with
  | some message => .error (.typeFault message)
  | none => text args

/-- The greatest number of bytes that are worked out. -/
def sizeBound : Nat := 1000000

/-- The failure of an integer too large to count with. -/
def notCount : Failure :=
  .overflow "cannot fit 'int' into an index-sized integer"

/-- The byte that a value stands for. -/
def byteOf (v : Value) : Except Failure Char :=
  match v.index? with
  | some n => if 0 ≤ n && n < 256 then .ok (Char.ofNat n.toNat) else .error .unacceptable
  | none => .error (notIndex v.className)

def bytesOf (v : Value) : Except Failure Value :=
  match v.index?, v.plain with
  | some n, _ =>
    if (Nat.pow 2 63 : Nat) ≤ n || n < -(Nat.pow 2 63 : Nat) then .error notCount
    else if n < 0 then .error .unacceptable
    else if sizeBound < n.toNat then .error .unbounded
    else .ok (.bytes (String.ofList (List.replicate n.toNat (Char.ofNat 0))))
  | none, .bytes s => .ok (.bytes s)
  | none, .str _ => .error (.typeFault "string argument without an encoding")
  | none, .list items | none, .tuple items =>
    (items.mapM byteOf).map fun cs => .bytes (String.ofList cs)
  | none, _ => .error (.typeFault ("cannot convert '" ++ v.className ++ "' object to bytes"))

/-- The bytes of a text in an encoding. -/
def encoded (v encoding : Value) (errors : Option Value) : Except Failure Value := do
  let encoding ← encodingName "bytes" encoding errors
  match v.text? with
  | some s => (coded encoding (·.encode? s)).map .bytes
  | none => .error (.typeFault "encoding without a string argument")

def bytes : List Value → Except Failure Value
  | [] => .ok (.bytes "")
  | [v] => bytesOf v
  | [v, encoding] => encoded v encoding none
  | [v, encoding, errors] => encoded v encoding (some errors)
  | args => .error (excess "bytes" 3 args.length)

/-! ## Members of enumerations -/

/-- The items that a value yields one by one. -/
def items? (v : Value) : Option (List Value) :=
  match v.plain with
  | .list items | .tuple items => some items
  | .str s => some (s.toList.map fun c => .str (String.ofList [c]))
  | .bytes s => some (s.toList.map fun c => .int c.toNat)
  | _ => none

/-- The arguments that a declared value stands for. -/
def arguments (v : Value) : List Value :=
  match v.plain with
  | .tuple items => items
  | _ => [v]

/-- The list that arguments make up. -/
def listOf (args : List Value) : Except Failure Value :=
  let items :=
    match args with
    | [] => some []
    | [v] => items? v
    | _ => none
  match items with
  | some items => .ok (.list items)
  | none => .error (.typeFault "_value_ not set in __new__, unable to create it")

/-- The value that a member stands for, given the one that it is declared with; a strict
enumeration of texts takes nothing but texts. -/
def ofDeclared (isStrict : Bool) (v : Value) : Mixin → Except Failure Value
  | .none => .ok v
  | .integer => integer (arguments v)
  | .real => real (arguments v)
  | .complex => complex (arguments v)
  | .text => if isStrict then strictText (arguments v) else text (arguments v)
  | .bytes => bytes (arguments v)
  | .tuple => .ok (.tuple (arguments v))
  | .list => listOf (arguments v)

end Schematic.Conversion
