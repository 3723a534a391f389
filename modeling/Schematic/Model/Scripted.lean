import Schematic.Model.Basic

/-!
# Scripted type models

A scripted model answers every question from a finite table of records, so a
type can be given any categories, also ones that no annotation has. A type is
the number of its record; two types are the same only if their numbers are. The
table is laid out from descriptions, in which a type is either the name of an
entry, which may be shared and cyclic, or written in place and then a type of its
own.
-/

namespace Schematic

namespace Scripted

/-- The answers about one type. -/
structure Record where
  name : String := ""
  flags : Flags := []
  value : Json := .null
  union : List Nat := []
  element : Option Nat := none
  isArray : Bool := false
  isTuple : Bool := false
  members : List (Member Nat) := []
  symbol : Option Symbol := none
  deriving Inhabited

abbrev Table := List Record

def record (table : Table) (type : Nat) : Record :=
  table[type]?.getD {}

/-- Every struct is open at most once, and between two structs no element recurs. -/
def nesting (table : Table) : Nat :=
  (table.length + 1) * (table.length + 1) + 1

def model (table : Table) : TypeModel Nat Nat where
  symbol type := (record table type).symbol
  flags type := .ok (record table type).flags
  literal type := .ok (record table type).value
  unionMembers type := (record table type).union
  isArray type := .ok (record table type).isArray
  element? type := (record table type).element
  isTuple type := (record table type).isTuple
  members type := .ok (record table type).members
  render type := (record table type).name
  identity type := type
  depth _ := nesting table

/-- Appends a member to a struct. -/
def addMember (table : Table) (type : Nat) (member : Member Nat) : Table :=
  table.modify type fun record => { record with members := record.members ++ [member] }

/-! ## Descriptions -/

/-- The part of a description that does not mention other types. -/
structure Head where
  name : String
  flags : Flags
  value : Json
  isArray : Bool
  isTuple : Bool
  symbol : Option Symbol

structure MemberHead where
  name : String
  optional : Bool
  symbol : Option Symbol

inductive Description where
  | named (key : String)
  | inPlace (head : Head) (union : List Description) (element : Option Description)
      (members : List (MemberHead × Description))
  deriving Inhabited

/-- Numbers of the named entries. -/
abbrev Names := Dict Nat

/-- Appends a record and yields its number. -/
def append (record : Record) : StateM Table Nat :=
  fun table => (table.length, table ++ [record])

def Head.toRecord (head : Head) (union : List Nat) (element : Option Nat)
    (members : List (Member Nat)) : Record :=
  ⟨head.name, head.flags, head.value, union, element, head.isArray, head.isTuple, members,
    head.symbol⟩

mutual

/-- The number of a described type, after its record, if it has one of its own, is laid out. -/
def place (names : Names) : Description → StateM Table Nat
  | .named key => do
    let table ← get
    pure ((Dict.get? key names).getD table.length)
  | .inPlace head union element members => do
    let union ← placeAll names union
    let element ← placeOption names element
    let members ← placeMembers names members
    append (head.toRecord union element members)

def placeAll (names : Names) : List Description → StateM Table (List Nat)
  | [] => pure []
  | first :: rest => do
    let first ← place names first
    let rest ← placeAll names rest
    pure (first :: rest)

def placeOption (names : Names) : Option Description → StateM Table (Option Nat)
  | none => pure none
  | some description => do
    let type ← place names description
    pure (some type)

def placeMembers (names : Names) :
    List (MemberHead × Description) → StateM Table (List (Member Nat))
  | [] => pure []
  | (head, description) :: rest => do
    let type ← place names description
    let rest ← placeMembers names rest
    pure (⟨head.name, type, head.optional, head.symbol⟩ :: rest)

end

/-- The content of a named entry's record, the record itself having its number already. -/
def placeEntry (names : Names) (type : Nat) : Description → StateM Table Unit
  | .named _ => pure ()
  | .inPlace head union element members => do
    let union ← placeAll names union
    let element ← placeOption names element
    let members ← placeMembers names members
    modify (·.set type (head.toRecord union element members))

/-- The table of some named entries, with the numbers of their names. -/
def layOut (entries : List (String × Description)) : Names × Table :=
  let names : Names := entries.mapIdx fun i entry => (entry.1, i)
  let blank : Table := entries.map fun _ => {}
  let place : StateM Table Unit :=
    entries.zipIdx.forM fun (entry, i) => placeEntry names i entry.2
  (names, (place.run blank).2)

end Scripted

end Schematic
