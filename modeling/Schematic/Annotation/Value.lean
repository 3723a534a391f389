import Schematic.Annotation.ClassRef
import Schematic.Json.Writer
import Schematic.Number.Arithmetic

/-!
# Literal values

The values that may stand in a literal type, as a default, or as members of an
enumeration. A member of an enumeration has a value of its own, and where the
enumeration derives from a kind of plain values, the member is such a value as
well. Two values are equal as numbers across the numeric kinds, truth values
counting as one and zero; they are the same literal only if their kinds agree as
well.
-/

namespace Schematic

/-- What the members of an enumeration are besides being members. -/
inductive Mixin where
  | none
  | integer
  | real
  | complex
  | text
  | bytes
  | tuple
  | list
  deriving DecidableEq, Repr, Inhabited

/-- An enumeration as its members know it. -/
structure Enumeration where
  number : Nat
  name : String
  qualname : String
  mixin : Mixin
  /-- Members stand for sets of bits. -/
  hasFlags : Bool
  /-- Members are written as the values they stand for. -/
  isBare : Bool
  deriving DecidableEq, Repr, Inhabited

inductive Value where
  | none
  | bool (value : Bool)
  | int (value : Int)
  | float (value : Double)
  | complex (real imaginary : Double)
  | str (value : String)
  | bytes (value : String)
  | list (items : List Value)
  | tuple (items : List Value)
  /-- A class that an enumeration has as a member. -/
  | cls (ref : ClassRef)
  /-- A member of an enumeration; a set of bits may lack a name. -/
  | member (owner : Enumeration) (name : Option String) (value : Value)
  deriving Inhabited

namespace Value

/-- The kind of a value; each enumeration is a kind of its own. -/
inductive Kind where
  | none
  | bool
  | int
  | float
  | complex
  | str
  | bytes
  | list
  | tuple
  | cls
  | member (owner : Nat)
  deriving DecidableEq, Repr

def kind : Value → Kind
  | none => .none
  | bool _ => .bool
  | int _ => .int
  | float _ => .float
  | complex .. => .complex
  | str _ => .str
  | bytes _ => .bytes
  | list _ => .list
  | tuple _ => .tuple
  | cls _ => .cls
  | member owner .. => .member owner.number

/-- The name of the class that a value belongs to. -/
def className : Value → String
  | none => "NoneType"
  | bool _ => "bool"
  | int _ => "int"
  | float _ => "float"
  | complex .. => "complex"
  | str _ => "str"
  | bytes _ => "bytes"
  | list _ => "list"
  | tuple _ => "tuple"
  | cls ref => ref.classOf.name
  | member owner _ _ => owner.name

/-- The plain value that a value is: a member of an enumeration that derives from a kind of plain
values is the value that it stands for. -/
def plain : Value → Value
  | member owner name v => if owner.mixin = .none then member owner name v else v
  | v => v

/-- The integer that a value is, truth values counting as one and zero. -/
def index? (v : Value) : Option Int :=
  match v.plain with
  | bool b => some b.toNat
  | int n => some n
  | _ => Option.none

/-- The integer that a value is equal to, if there is one. -/
def integer? (v : Value) : Option Int :=
  match v.plain with
  | float x => x.toInt?
  | complex x y => if y.isZero then x.toInt? else Option.none
  | v => v.index?

/-- The text that a value is. -/
def text? (v : Value) : Option String :=
  match v.plain with
  | str s => some s
  | _ => Option.none

/-- The bytes that a value is. -/
def bytes? (v : Value) : Option String :=
  match v.plain with
  | bytes s => some s
  | _ => Option.none

mutual

/-- Equality of values, across the numeric kinds. A member that is no plain value is equal to
itself alone. -/
def equal (a b : Value) : Bool :=
  match a, b.plain with
  | member owner name v, w =>
    if owner.mixin ≠ .none then equal v w
    else
      match w with
      | member owner' name' v' =>
        owner.number = owner'.number && name = name' && (name.isSome || equal v v')
      | _ => false
  | none, none => true
  | str s, str t => s = t
  | bytes s, bytes t => s = t
  | cls ref, cls ref' => ref.same ref'
  | list items, list items' => equalItems items items'
  | tuple items, tuple items' => equalItems items items'
  | float x, float y => x.sameNumber y
  | complex x y, complex x' y' => x.sameNumber x' && y.sameNumber y'
  | float x, complex x' y' | complex x' y', float x => x.sameNumber x' && y'.isZero
  | v, w =>
    match v.integer?, w.integer? with
    | some m, some n => m = n
    | _, _ => false

def equalItems : List Value → List Value → Bool
  | [], [] => true
  | a :: as, b :: bs => equal a b && equalItems as bs
  | _, _ => false

end

/-- Equality of values of one kind. -/
def sameLiteral (a b : Value) : Bool :=
  a.kind = b.kind && a.equal b

mutual

/-- The kind of the first part that keeps a value from being looked up in a hash table. -/
def unhashable? : Value → Option String
  | list _ => some "list"
  | tuple items => unhashableIn? items
  | member owner _ v =>
    match owner.mixin with
    | .list => some owner.name
    | .tuple => unhashable? v
    | _ => Option.none
  | _ => Option.none

def unhashableIn? : List Value → Option String
  | [] => Option.none
  | item :: rest => (unhashable? item).or (unhashableIn? rest)

end

/-- Whether a value counts as true. -/
def isTrue : Value → Bool
  | none => false
  | bool b => b
  | int n => n ≠ 0
  | float x => !x.isZero
  | complex x y => !(x.isZero && y.isZero)
  | str s | bytes s => s ≠ ""
  | list items | tuple items => !items.isEmpty
  | cls _ => true
  | member owner _ v => if owner.hasFlags || owner.mixin ≠ .none then isTrue v else true

/-- Whether the items of a value can be exchanged. -/
def isChangeable : Value → Bool
  | list _ => true
  | member owner _ _ => owner.mixin = .list
  | _ => false

/-- The value that a member of an enumeration stands for; other values stand for themselves. -/
def underlying : Value → Value
  | member _ _ value => value
  | value => value

/-- The items with commas between them; a lone item of a tuple has one after it. -/
def enclosed (opening closing : Char) (lone : Bool) (items : List (List Char)) : List Char :=
  opening :: [',', ' '].intercalate items ++
    (if lone && items.length = 1 then [','] else []) ++ [closing]

/-- A real or imaginary part, which shows no fraction if it is integral. -/
def partText (x : Double) : List Char :=
  let text := Double.Layout.literal.text x
  if text.drop (text.length - 2) = ['.', '0'] then text.take (text.length - 2) else text

/-- A complex number; a real part of zero is left out unless it is negative. -/
def complexText (x y : Double) : List Char :=
  if x.isZero && !x.isNegative then partText y ++ ['j']
  else
    let imaginary := partText y
    let sign := if imaginary.head? = some '-' then [] else ['+']
    '(' :: partText x ++ sign ++ imaginary ++ ['j', ')']

mutual

/-- The literal form of a value. -/
def repr : Value → List Char
  | none => "None".toList
  | bool true => "True".toList
  | bool false => "False".toList
  | int n => Json.integerText n
  | float x => Double.Layout.literal.text x
  | complex x y => complexText x y
  | str s => Text.quoted s.toList
  | bytes s => Text.quotedBytes s.toList
  | list items => enclosed '[' ']' false (reprItems items)
  | tuple items => enclosed '(' ')' true (reprItems items)
  | cls ref => ref.display
  | member owner (some name) value =>
    '<' :: owner.name.toList ++ '.' :: name.toList ++ ':' :: ' ' :: repr value ++ ['>']
  | member owner Option.none value =>
    '<' :: owner.name.toList ++ ':' :: ' ' :: repr value ++ ['>']

def reprItems : List Value → List (List Char)
  | [] => []
  | item :: rest => repr item :: reprItems rest

end

/-- The text of a value: a text is shown as it is, and a member of an enumeration by the names of
both, unless its enumeration writes members as the values they stand for. -/
def text : Value → List Char
  | str s => s.toList
  | member owner name v =>
    if owner.isBare then text v
    else
      match name with
      | some name => owner.name.toList ++ '.' :: name.toList
      | Option.none => owner.name.toList ++ '(' :: repr v ++ [')']
  | v => repr v

mutual

/-- The JSON value of a literal; one that has none is written in its literal form. -/
def toJson : Value → Json
  | none => .null
  | bool b => .bool b
  | int n => .int n
  | float x => .float x
  | complex x y => .str (String.ofList (complexText x y))
  | str s => .str s
  | bytes s => .str (String.ofList (Text.quotedBytes s.toList))
  | list items => .arr (itemsToJson items)
  | tuple items => .arr (itemsToJson items)
  | cls ref => .str (String.ofList ref.display)
  | member _ _ value => toJson value

def itemsToJson : List Value → List Json
  | [] => []
  | item :: rest => toJson item :: itemsToJson rest

end

/-- The first of equal values stay, provided that all can be looked up. -/
def distinct (values : List Value) : List Value :=
  let keep (kept : List Value) (value : Value) : List Value :=
    if kept.any (sameLiteral value) then kept else kept ++ [value]
  if (unhashableIn? values).isNone then values.foldl keep [] else values

/-- Equality as sets of literals. -/
def sameSet (a b : List Value) : Bool :=
  a.all (fun x => b.any (sameLiteral x)) && b.all fun y => a.any (sameLiteral y)

end Value

end Schematic
