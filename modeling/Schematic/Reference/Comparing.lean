import Schematic.Reference.FlagSet

/-!
# Comparisons

Any two objects are equal or not. Numbers are ordered by size, texts and bytes by
their characters, sequences of one kind by their first difference, and sets by
inclusion; other objects have no order. An object is contained in a collection
that has an equal one, in a text that has it as a part, or in the enumeration
that it is a member of.
-/

namespace Schematic

namespace Comparison

def symbol : Comparison → String
  | less => "<"
  | lessOrEqual => "<="
  | greater => ">"
  | greaterOrEqual => ">="
  | equal => "=="
  | unequal => "!="
  | identical => "is"
  | distinct => "is not"
  | contained | missing => "in"

/-- What an order makes of a comparison, given whether the left is less and whether both are
equal. -/
def ofOrder (comparison : Comparison) (isLess isEqual : Bool) : Bool :=
  match comparison with
  | less => isLess
  | lessOrEqual => isLess || isEqual
  | greater => !isLess && !isEqual
  | greaterOrEqual => !isLess
  | _ => isEqual

open Annotation

/-- The failure of objects without an order. -/
def unordered (comparison : Comparison) (a b : Annotation) : Failure :=
  .typeFault ("'" ++ comparison.symbol ++ "' not supported between instances of '" ++
    a.className ++ "' and '" ++ b.className ++ "'")

/-- The order of numbers; not-a-number is in no order with any. -/
def ofNumbers? (comparison : Comparison) (a b : Annotation) : Option Bool :=
  match a, b with
  | .value v, .value w => do
    let x ← v.quantity?
    let y ← w.quantity?
    let below ← Arithmetic.less? x y
    let above ← Arithmetic.less? y x
    match comparison with
    | less => some below
    | lessOrEqual => some (below || v.equal w)
    | greater => some above
    | _ => some (above || v.equal w)
  | _, _ => none

def ofCharacters (comparison : Comparison) (s t : String) : Bool :=
  comparison.ofOrder (decide (s < t)) (s = t)

/-- The order of sets by inclusion. -/
def ofSets (comparison : Comparison) (xs ys : List Annotation) : Bool :=
  let within := allIn xs ys
  let around := allIn ys xs
  match comparison with
  | less => within && !around
  | lessOrEqual => within
  | greater => around && !within
  | _ => around

mutual

/-- A comparison by order. -/
def ordered : Nat → Comparison → Annotation → Annotation → Except Failure Bool
  | 0, comparison, a, b => .error (unordered comparison a b)
  | depth + 1, comparison, a, b =>
    match ofNumbers? comparison a b, a.text?, b.text? with
    | some result, _, _ => .ok result
    | none, some s, some t => .ok (ofCharacters comparison s t)
    | _, _, _ =>
      match a.bytes?, b.bytes?, a.sequence?, b.sequence?, a.set?, b.set? with
      | some s, some t, _, _, _, _ => .ok (ofCharacters comparison s t)
      | _, _, some (shape, xs), some (shape', ys), _, _ =>
        if shape = shape' then orderedItems depth comparison xs ys
        else .error (unordered comparison a b)
      | _, _, _, _, some (_, xs), some (_, ys) => .ok (comparison.ofSets xs ys)
      | _, _, _, _, _, _ => .error (unordered comparison a b)

/-- Sequences are compared at their first difference. -/
def orderedItems : Nat → Comparison → List Annotation → List Annotation → Except Failure Bool
  | _, comparison, [], [] => .ok (comparison.ofOrder false true)
  | _, comparison, [], _ :: _ => .ok (comparison.ofOrder true false)
  | _, comparison, _ :: _, [] => .ok (comparison.ofOrder false false)
  | depth, comparison, x :: xs, y :: ys =>
    if x.same y then orderedItems depth comparison xs ys else ordered depth comparison x y

end

/-- Whether a text is part of another one. -/
def isPart (part : List Char) : List Char → Bool
  | [] => part.isEmpty
  | c :: rest => part.isPrefixOf (c :: rest) || isPart part rest

/-- The failure of a search where the object cannot be. -/
def unsearched (a b : Annotation) : Failure :=
  .typeFault ("unsupported operand type(s) for 'in': '" ++ a.classOf.qualname ++ "' and '" ++
    b.classOf.qualname ++ "'")

/-- Whether an object is a member of an enumeration. -/
def isMember (scope : Scope) (ref : ClassRef) (a : Annotation) : Except Failure Bool :=
  match a with
  | .value (.member owner name _) =>
    .ok (scope.derives owner.ref ref &&
      name.any fun own => Dict.contains own (scope.enumerators ref))
  | a => .error (unsearched a (.cls ref))

/-- Whether a set of flags has all bits of another one. -/
def hasBits (owner : Enumeration) (n : Int) (a : Annotation) : Except Failure Bool :=
  let refused : Except Failure Bool :=
    .error (unsearched a (.value (.member owner none (.int n))))
  match a with
  | .value (.member other _ (.int m)) =>
    if other.number = owner.number then .ok (Nat.land m.toNat n.toNat = m.toNat) else refused
  | _ => refused

/-- Whether bytes have a part, or a byte that an integer stands for. -/
def hasByte (cs : List Char) (a : Annotation) : Except Failure Bool :=
  match a.bytes?, a.index? with
  | some part, _ => .ok (isPart part.toList cs)
  | none, some n =>
    if 0 ≤ n && n < 256 then .ok (cs.any fun c => n = c.toNat) else .error .unacceptable
  | none, none =>
    .error (.typeFault ("a bytes-like object is required, not '" ++ a.className ++ "'"))

/-- Whether an object is contained in another one. -/
def isContained (scope : Scope) (a b : Annotation) : Except Failure Bool :=
  match b with
  | .cls ref =>
    if ref.family = .enumeration || ref.family = .flags then isMember scope ref a
    else .error (unsearchable b)
  | .mapping entries => (hashed a).map (anySame (keysOf entries))
  | b =>
    match b.bytes?, b.text?, b.set?, FlagSet.owner? b, b with
    | some s, _, _, _, _ => hasByte s.toList a
    | none, some s, _, _, _ =>
      match a.text? with
      | some part => .ok (isPart part.toList s.toList)
      | none =>
        .error (.typeFault ("'in <string>' requires string as left operand, not " ++ a.className))
    | none, none, some (_, items), _, _ => (hashed a).map (anySame items)
    | none, none, none, some owner, .value (.member _ _ (.int n)) => hasBits owner n a
    | none, none, none, _, b =>
      match scope.items? b with
      | some items => .ok (anySame items a)
      | none => .error ((Scope.refusal? b).getD (unsearchable b))
where
  unsearchable (t : Annotation) : Failure :=
    .typeFault ("argument of type '" ++ t.className ++ "' is not iterable")

/-- Whether two objects are one and the same; collections that can change never are. -/
def isIdentical (a b : Annotation) : Bool :=
  match a, b with
  | .value v, .value w => v.sameLiteral w && v.unhashable?.isNone
  | .mapping _, _ => false
  | .collection shape _, _ => shape = .tuple && a.same b
  | a, b => a.same b

/-- How deep sequences are compared. -/
def depthBound : Nat := 100

/-- Whether a comparison holds between two objects. -/
def holds (comparison : Comparison) (scope : Scope) (a b : Annotation) : Except Failure Bool :=
  match comparison with
  | equal => .ok (a.same b)
  | unequal => .ok !(a.same b)
  | identical => .ok (isIdentical a b)
  | distinct => .ok !(isIdentical a b)
  | contained => isContained scope a b
  | missing => (isContained scope a b).map not
  | comparison => ordered depthBound comparison a b

end Comparison

end Schematic
