import Schematic.Class.Member

/-!
# The type model of annotations

A module answers all questions about the annotations over it. Two annotations
are identical if they are equal without their wrappers; one that cannot be
looked up in a hash table is identical to none. Every cycle of annotations goes
through a declared class, so the nesting of a type is bounded by its own height
and the heights of the members of all classes.
-/

namespace Schematic

namespace Annotation

/-- Whether annotations without wrappers are found under each other in a hash table. -/
def identical (a b : Annotation) : Bool :=
  a.isHashable && b.isHashable && same a b

instance : BEq Annotation := ⟨identical⟩

end Annotation

namespace Module

variable [Environment]

/-- The types of the members of a class, if they are known. -/
def memberTypes (m : Module) (ref : ClassRef) : List Annotation :=
  match (m.classMembers ref).outcome with
  | .ok members => members.map Member.type
  | .error _ => []

/-- The greatest height of a member of a class. -/
def memberHeight (m : Module) (ref : ClassRef) : Nat :=
  Annotation.heightOfAll (m.memberTypes ref)

/-- A bound on the nesting below all classes that are not entered twice. -/
def classHeights (m : Module) : Nat :=
  (List.range m.classes.length).foldr
    (fun number total => m.memberHeight (.declared number "" .ordinary) + 1 + total) 0

def nesting (m : Module) (t : Annotation) : Nat :=
  t.height + m.classHeights + 1

def model (m : Module) : TypeModel Annotation Annotation where
  symbol := m.symbol?
  flags := m.flags
  literal t := t.literalValue.map Value.toJson
  unionMembers := m.unionMembers
  isArray := Annotation.isArray
  element? := Annotation.element?
  isTuple := m.isTuple
  members := m.members
  render := Annotation.render
  identity := Annotation.strip
  depth := m.nesting

end Module

end Schematic
