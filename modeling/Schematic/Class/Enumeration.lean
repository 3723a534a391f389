import Schematic.Annotation.Conversion
import Schematic.Class.Attribute
import Schematic.Text.Blank

/-!
# Members of enumerations

What the body of an enumeration binds are its members, in order, methods apart and
names apart that the class keeps for itself. Where the enumeration derives from a
kind of plain values, the members' values are converted to that kind first. A
member with a value equal to an earlier one is another name of that one. An
enumeration of flags lists only the members of a single bit; the others are
members nonetheless. A class that has members cannot be extended.
-/

namespace Schematic

/-! ## Names -/

namespace Declaration

/-- Whether a name is written between exactly so many underscores. -/
def isBetween (count : Nat) (name : String) : Bool :=
  let starts (cs : List Char) : Bool :=
    (List.replicate count '_').isPrefixOf cs && (cs.drop count).head? ≠ some '_'
  2 * count < name.length && starts name.toList && starts name.toList.reverse

/-- Whether a name is the long form of a private one. -/
def isPrivate (d : Declaration) (name : String) : Bool :=
  let start := '_' :: d.name.toList ++ ['_', '_']
  start.length < name.length && start.isPrefixOf name.toList && !name.endsWith "__"

/-- Names between underscores that an enumeration may give a meaning to. -/
def settings : List String :=
  ["_order_", "_generate_next_value_", "_numeric_repr_", "_missing_", "_ignore_", "_iter_member_",
    "_iter_member_by_value_", "_iter_member_by_def_"]

/-- The names that a value lists, in words or one by one. -/
def listedNames (v : Value) : Except Failure (List String) :=
  match v, Conversion.items? v with
  | .str s, _ =>
    .ok ((Text.words (s.toList.map fun c => if c = ',' then ' ' else c)).map String.ofList)
  | _, some items => .ok (items.filterMap Value.text?)
  | v, none => .error (.typeFault ("'" ++ v.className ++ "' object is not iterable"))

end Declaration

/-- A member as it is declared. -/
structure Enumerator where
  name : String
  /-- The number of the statement that declares it. -/
  place : Nat
  value : Value

/-- What a part of an enumeration's body has bound. -/
structure Roster where
  members : List Enumerator
  methods : List String
  /-- Names that are to be no members. -/
  ignored : List String
  /-- What the body claims to be the order of the members' names. -/
  order : Value

namespace Roster

def empty : Roster := ⟨[], [], [], .none⟩

def shownName (name : String) : String :=
  String.ofList (Text.quoted name.toList)

/-- The failure of a name that is given to something else a second time. -/
def repeated (name shown : String) : Failure :=
  .typeFault (shownName name ++ " already defined as " ++ shown)

/-- Gives a meaning to a name that the class keeps for itself. -/
def withSetting (roster : Roster) (name : String) (value : Option Value) : Except Failure Roster :=
  if !Declaration.settings.contains name then .error .unacceptable
  else
    match name, value with
    | "_order_", some value => .ok { roster with order := value }
    | "_ignore_", some value => do
      let names ← Declaration.listedNames value
      if roster.members.any fun member => names.contains member.name then .error .unacceptable
      else pure { roster with ignored := names }
    | _, _ => .ok roster

/-- Adds a name; a method has no value. -/
def withName (roster : Roster) (d : Declaration) (place : Nat) (name : String)
    (value : Option Value) : Except Failure Roster :=
  if d.isPrivate name then .ok roster
  else if Declaration.isBetween 1 name then roster.withSetting name value
  else if name = "__order__" then roster.withSetting "_order_" value
  else if Declaration.isBetween 2 name then .ok roster
  else
    match roster.members.find? fun member => member.name = name, value with
    | some member, _ => .error (repeated name (String.ofList member.value.repr))
    | none, value =>
      if roster.ignored.contains name then .ok roster
      else
        match value with
        | none => .ok { roster with methods := roster.methods ++ [name] }
        | some value =>
          if roster.methods.contains name then
            .error (repeated name ("<function " ++ d.name ++ "." ++ name ++ ">"))
          else .ok { roster with members := roster.members ++ [⟨name, place, value⟩] }

end Roster

namespace Statement

/-- The names that a statement of an enumeration binds, and their value; a method has none. -/
def binding : Statement → List String × Option Value
  | assigned names value => (names, some value)
  | annotated name _ (.value value) => ([name], some value)
  | nested name (.cls ref) => ([name], some (.cls ref))
  | method name => ([name], none)
  | _ => ([], none)

end Statement

/-! ## Members -/

namespace Mixin

/-- What the members of an enumeration with the given line of bases are besides members. -/
def ofLine (line : List ClassRef) : Mixin :=
  let kinds : List (String × Mixin) :=
    [("int", integer), ("float", real), ("complex", complex), ("str", text), ("bytes", bytes),
      ("tuple", tuple), ("list", list)]
  ((kinds.find? fun kind => line.contains (.builtin kind.1)).map Prod.snd).getD none

end Mixin

namespace Value

def isSingleBit (value : Value) : Bool :=
  match value.index? with
  | some n => 0 < n && n = Nat.pow 2 n.toNat.log2
  | Option.none => false

/-- Whether a member goes by the given name, not by another one. -/
def isNamed (name : String) : Value → Bool
  | member _ own _ => own = some name
  | _ => false

end Value

/-- The members that go by their own names; of an enumeration of flags, those of a single bit. -/
def listedOf (hasFlags : Bool) (enumerators : Dict Value) : List Value :=
  ((enumerators.filter fun entry => entry.2.isNamed entry.1).map Prod.snd).filter fun member =>
    !hasFlags || member.underlying.isSingleBit

namespace Declaration

/-- What the body declares. -/
def roster (d : Declaration) : Except Failure Roster := do
  let roster ← d.body.zipIdx.foldlM (fun roster (statement, place) =>
    let (names, value) := statement.binding
    names.foldlM (fun roster name => roster.withName d place (d.knownAs name) value) roster)
    Roster.empty
  if roster.members.any fun member => member.name = "mro" then .error .unacceptable
  else pure roster

/-- Whether the names of one statement share the value that a member is given. -/
def isShared (mixin : Mixin) (v : Value) : Bool :=
  mixin = .none || v matches .float _

/-- Adds a member to those before it, each with the statement that declares it. -/
def withMember (owner : Schematic.Enumeration) (isStrict : Bool) (members : List Enumerator)
    (declared : Enumerator) : Except Failure (List Enumerator) := do
  let value ← Conversion.ofDeclared isStrict declared.value owner.mixin
  let known := members.find? fun member =>
    (isShared owner.mixin declared.value && member.place = declared.place) ||
      member.value.underlying.equal value
  let member := (known.map Enumerator.value).getD (.member owner declared.name value)
  pure (members ++ [{ declared with value := member }])

/-- Checks the order that a body claims for its members, in which other names of a member do not
count. -/
def checkOrder (hasFlags : Bool) (enumerators : Dict Value) (order : Value) :
    Except Failure Unit := do
  let order ← if order.isTrue then listedNames order else pure []
  let shown (names : List String) : String := String.ofList (Value.list (names.map .str)).repr
  let listed := (listedOf hasFlags enumerators).filterMap fun member =>
    match member with
    | .member _ name _ => name
    | _ => none
  let claimed := order.filter fun name =>
    !hasFlags || (Dict.get? name enumerators).all (·.underlying.isSingleBit)
  let own := claimed.filter fun name => !Dict.contains name enumerators || listed.contains name
  if claimed = [] || own = listed then pure ()
  else
    .error (.typeFault ("member order does not match _order_:\n  " ++ shown listed ++ "\n  " ++
      shown own))

/-- Every name of an enumeration with the member it means. -/
def enumerators (d : Declaration) (owner : Schematic.Enumeration) (isStrict : Bool) :
    Except Failure (Dict Value) := do
  let roster ← d.roster
  let members ← roster.members.foldlM (withMember owner isStrict) []
  let enumerators := members.map fun member => (member.name, member.value)
  checkOrder owner.hasFlags enumerators roster.order
  pure enumerators

end Declaration

namespace Module

/-- The members of an enumeration, in order. -/
def listedMembers (m : Module) (ref : ClassRef) : List Value :=
  listedOf (m.derives ref .flagEnumeration) (m.enumerators ref)

/-- The class of plain values that a base lends to an enumeration, if it has one. -/
def lentClass? (m : Module) (base : ClassRef) : Option ClassRef :=
  (m.linear base).find? fun ref => !m.isEnumeration ref && (m.layout? ref).isSome

/-- The failure of bases that an enumeration cannot have. -/
def misplacedBases? (m : Module) (d : Declaration) : Option String :=
  let extended := (d.bases.flatMap m.linear).find? fun base => !(m.listedMembers base).isEmpty
  let lent := (d.bases.filterMap m.lentClass?).foldl
    (fun (known : List ClassRef) ref => if known.contains ref then known else known ++ [ref]) []
  match extended with
  | some base =>
    some ("<enum " ++ Roster.shownName d.name ++ "> cannot extend " ++ String.ofList base.display)
  | none =>
    if !d.bases.getLast?.all m.isEnumeration then
      some ("new enumerations should be created as " ++
        "`EnumName([mixin_type, ...] [data_type,] enum_type)`")
    else if 1 < lent.length then
      some ("too many data types for " ++ Roster.shownName d.name ++ ": " ++
        String.ofList (Value.enclosed '\x7b' '\x7d' false (lent.map ClassRef.display)))
    else none

/-- Checks that an enumeration can have its bases and can bind its names. -/
def checkEnumeration (m : Module) (d : Declaration) : Except Failure Unit :=
  match m.misplacedBases? d with
  | some message => .error (.typeFault message)
  | none => d.roster.map fun _ => ()

/-- An enumeration as its members know it, given its line of bases. -/
def enumerationOf (number : Nat) (qualname : String) (d : Declaration) (line : List ClassRef) :
    Schematic.Enumeration where
  number
  name := d.name
  qualname
  mixin := .ofLine line
  hasFlags := line.contains .flagEnumeration
  isBare := line.contains (.library "enum.ReprEnum")

/-- The members of an enumeration with the given line of bases; other classes have none. -/
def enumeratorsFor (m : Module) (qualname : String) (d : Declaration) (line : List ClassRef) :
    Except Failure (Dict Value) :=
  if line.contains .enumeration then
    d.enumerators (enumerationOf m.classes.length qualname d line)
      (line.contains (.library "enum.StrEnum"))
  else .ok []

end Module

end Schematic
