import Schematic.Model.Scripted
import Schematic.Proofs.Building

/-!
# Answers of a scripted model

A scripted model reads every answer off the record of a type and never fails to answer.
So a type is always classified, a union of literals always has its values, and whether a
member is optional is a property of the table.
-/

namespace Schematic

namespace Scripted

open TypeModel

/-- Whether a type is undefined or a union with an undefined member. -/
def includesUndefined (table : Table) (type : Nat) : Bool :=
  (record table type).flags.contains .undefined ||
    (record table type).flags.contains .union &&
      (record table type).union.any fun member ↦ (record table member).flags.contains .undefined

/-- Whether a member is declared optional or of a type that includes undefined. -/
def isOptional (table : Table) (member : Member Nat) : Bool :=
  member.optional || includesUndefined table member.type

/-- The members of a struct that are not tagged to be ignored, in order of declaration. -/
def keptMembers (table : Table) (type : Nat) : List (Member Nat) :=
  (record table type).members.filter fun member ↦
    !Symbol.hasTag Constraint.ignoreTag member.symbol

/-- The names of the kept members that are not optional, in order of declaration. -/
def requiredNames (table : Table) (type : Nat) : List String :=
  ((keptMembers table type).filter fun member ↦ !isOptional table member).map Member.name

theorem anyM_pure {α : Type} (p : α → Bool) (xs : List α) :
    (xs.anyM fun x ↦ (.ok (p x) : Except Failure Bool)) = .ok (xs.any p) := by
  induction xs with
  | nil => rfl
  | cons x xs ih =>
    rw [List.anyM, List.any_cons]
    cases hx : p x with
    | true => rfl
    | false => exact ih

/-- The model of a table answers from its entries. -/
theorem model_isOptional (table : Table) (member : Member Nat) :
    (model table).isOptional member = .ok (isOptional table member) := by
  have hincludes : (model table).includesUndefined member.type =
      .ok (includesUndefined table member.type) := by
    change (if (record table member.type).flags.contains .undefined then .ok true
      else if (record table member.type).flags.contains .union then
        (record table member.type).union.anyM fun part ↦
          .ok ((record table part).flags.contains .undefined)
      else (.ok false : Except Failure Bool)) = _
    unfold includesUndefined
    cases (record table member.type).flags.contains .undefined with
    | true => rfl
    | false =>
      cases (record table member.type).flags.contains .union with
      | true => exact anyM_pure _ _
      | false => rfl
  unfold TypeModel.isOptional isOptional
  rw [hincludes]
  cases member.optional <;> rfl

theorem model_members {table : Table} {type : Nat} {members : List (Member Nat)}
    (h : ((model table).members type).outcome = .ok members) :
    (record table type).members = members :=
  Except.ok.inj h

/-- The string and number literals among some types have the values of their records. -/
theorem textAndNumberValues_eq (table : Table) (types : List Nat) :
    (model table).textAndNumberValues types =
      .ok ((types.filter fun type ↦ (record table type).flags.isTextOrNumber).map fun type ↦
        (record table type).value) := by
  induction types with
  | nil => rfl
  | cons type rest ih =>
    unfold textAndNumberValues
    rw [ih, List.filter_cons]
    change (if (record table type).flags.isTextOrNumber then _ else _) = _
    split <;> rfl

theorem enumValues_eq_ok (table : Table) (type : Nat) :
    ∃ values, (model table).enumValues type = .ok values := by
  change ∃ values, (if (record table type).flags.contains .union then
    (model table).textAndNumberValues (record table type).union else pure []) = .ok values
  split
  · exact ⟨_, textAndNumberValues_eq table _⟩
  · exact ⟨[], rfl⟩

theorem classifyShape_eq_ok (table : Table) (flags : Flags) (type : Nat) :
    ∃ category, (model table).classifyShape flags type = .ok category := by
  change ∃ category, (if (record table type).isArray then .ok .array
    else if (record table type).isTuple then .ok .tuple
    else if flags.contains .object then .ok .object
    else if flags.contains .intersection then .ok .intersection
    else .ok .unsupported : Except Failure Category) = .ok category
  split
  · exact ⟨_, rfl⟩
  split
  · exact ⟨_, rfl⟩
  split
  · exact ⟨_, rfl⟩
  split <;> exact ⟨_, rfl⟩

/-- Every type of a table has a category. -/
theorem classify_eq_ok (table : Table) (type : Nat) :
    ∃ category, (model table).classify type = .ok category := by
  obtain ⟨values, hvalues⟩ := enumValues_eq_ok table type
  obtain ⟨shape, hshape⟩ := classifyShape_eq_ok table (record table type).flags type
  have hflags : (model table).flags type = .ok (record table type).flags := rfl
  unfold classify
  rw [hflags, Outcome.ok_bind, hvalues, hshape]
  cases categoryOfFlags? (record table type).flags with
  | some category => exact ⟨category, rfl⟩
  | none =>
    cases List.contains (record table type).flags .enumLike <;> cases values <;>
      cases List.contains (record table type).flags .union <;> exact ⟨_, rfl⟩

end Scripted

end Schematic
