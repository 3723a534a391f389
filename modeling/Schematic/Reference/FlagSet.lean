import Schematic.Reference.Arithmetic
import Schematic.Reference.Scope

/-!
# Sets of flags

A member of an enumeration of flags is a set of bits. A set that is no declared
member goes by the names of the members it is made from, in order. A plain
enumeration has no sets with other bits; where members are written as integers,
the other bits stay and are shown as a number. A negative integer stands for the set of all
bits that it has.
-/

namespace Schematic

namespace FlagSet

/-- The bits of a member. -/
def bitsOf (member : Value) : Nat :=
  (member.underlying.index?.getD 0).toNat

def isSingleBit (bits : Nat) : Bool :=
  0 < bits && bits = Nat.pow 2 bits.log2

/-- Bits outside a mask. -/
def without (bits mask : Nat) : Nat :=
  Nat.xor bits (Nat.land bits mask)

/-- The union of the bits of some members. -/
def union (members : List Value) : Nat :=
  members.foldl (fun bits member => Nat.lor bits (bitsOf member)) 0

/-- The members with no bits but the given ones, single bits first, each of them once. -/
def parts (members : List Value) (bits : Nat) : List Value :=
  let within := members.filter fun member =>
    0 < bitsOf member && Nat.land (bitsOf member) bits = bitsOf member
  let singles := within.filter fun member => isSingleBit (bitsOf member)
  let others := within.filter fun member => !isSingleBit (bitsOf member)
  let chosen := if union singles = bits then singles else singles ++ others
  chosen.foldl (fun kept member =>
    if kept.any (Value.sameLiteral member) then kept else kept ++ [member]) []

/-- The name of a set made from members, with the bits that none of them has. -/
def name? (members : List Value) (bits : Nat) : Option String :=
  let parts := parts members bits
  let names := parts.filterMap fun member =>
    match member with
    | .member _ name _ => name
    | _ => none
  let rest := without bits (union parts)
  if union parts = 0 then none
  else some ("|".intercalate (names ++ if rest = 0 then [] else [toString rest]))

/-- The member of exactly the given bits. -/
def declared? (members : List Value) (n : Int) : Option Value :=
  members.find? fun member => member.underlying.equal (.int n)

/-- The set that an integer stands for among the members of an enumeration. -/
def ofInteger (owner : Enumeration) (members : List Value) (n : Int) : Except Failure Value :=
  match declared? members n with
  | some member => .ok member
  | none =>
    let mask := union members
    let all : Nat := if mask = 0 then 0 else Nat.pow 2 (mask.log2 + 1) - 1
    let keeps := owner.isBare
    let inRange := -(all : Int) - 1 ≤ n && n ≤ all &&
      Arithmetic.bitwise Nat.land n (without all mask : Nat) = 0
    if !inRange && !keeps then .error .unacceptable
    else
      let size : Int := if inRange then (all : Int) + 1
        else max ((all : Int) + 1) (Nat.pow 2 (n.natAbs.log2 + 1) : Nat)
      let bits := (if n < 0 then size + n else n).toNat
      match declared? members bits with
      | some member => .ok member
      | none =>
        if !keeps && without bits mask ≠ 0 then .error .unacceptable
        else .ok (.member owner (name? members bits) (.int bits))

/-- The operations that combine sets. -/
def combination? : BinaryOperator → Option (Int → Int → Int)
  | .bitAnd => some (Arithmetic.bitwise Nat.land)
  | .bitXor => some (Arithmetic.bitwise Nat.xor)
  | .bitOr => some (Arithmetic.bitwise Nat.lor)
  | _ => none

/-- The bits that an object contributes to a set of an enumeration. -/
def contribution? (owner : Enumeration) (t : Annotation) : Option Int :=
  match t with
  | .value (.member other _ v) =>
    if other.number = owner.number || (owner.mixin = .integer && other.mixin = .integer) then
      v.integer?
    else none
  | t => if owner.mixin = .integer then t.index? else none

/-- The enumeration of flags that an object is a member of. -/
def owner? : Annotation → Option Enumeration
  | .value (.member owner _ _) => if owner.hasFlags then some owner else none
  | _ => none

def members (scope : Scope) (owner : Enumeration) : List Value :=
  (scope.enumerators owner.ref).map Prod.snd

/-- A combination of two objects as sets of an enumeration. -/
def combinedIn? (scope : Scope) (operator : BinaryOperator) (owner : Enumeration)
    (a b : Annotation) : Option (Except Failure Annotation) := do
  let combine ← combination? operator
  let m ← contribution? owner a
  let n ← contribution? owner b
  pure ((ofInteger owner (members scope owner) (combine m n)).map .value)

/-- Whether an object is a number of a kind of its own. -/
def isSpecial : Annotation → Bool
  | .value (.member ..) | .value (.bool _) => true
  | _ => false

/-- A combination of two objects of which one is a set, the left one first. A truth value or a
member of another enumeration on the left is a plain number. -/
def combined? (scope : Scope) (operator : BinaryOperator) (a b : Annotation) :
    Option (Except Failure Annotation) :=
  match owner? a with
  | some owner => (combinedIn? scope operator owner a b).or (onRight? a)
  | none => onRight? a
where
  onRight? (a : Annotation) : Option (Except Failure Annotation) :=
    if isSpecial a then none
    else (owner? b).bind fun owner => combinedIn? scope operator owner a b

/-- The set of the single bits that a set lacks, or of all other bits where other bits stay. -/
def inverted (scope : Scope) (owner : Enumeration) (n : Int) : Except Failure Annotation :=
  let members := members scope owner
  let singles := (members.map bitsOf).filter isSingleBit
  let all : Nat := singles.foldl Nat.lor 0
  let bits := if owner.isBare then -n - 1
    else Arithmetic.bitwise Nat.land all (-n - 1)
  (ofInteger owner members bits).map .value

end FlagSet

end Schematic
