import Schematic.Proofs.Compilability
import Schematic.Proofs.LateSynonyms
import Schematic.Reference.Environment

/-!
# Cyclic types

Structs may refer to each other in any way: a compilation ends all the same, and at no moment
are more structs open than there are. Of a scripted model this needs that no cycle leads
through arrays alone. Among annotations there is no such cycle, unless synonyms whose values
are evaluated late make one.
-/

namespace Schematic

namespace Scripted

open TypeModel

variable {table : Table} {root : Nat}

def structs (table : Table) : List Nat :=
  (List.range table.length).filter fun type ↦ (model table).classify type matches .ok .object

/-- The structs of a table are its types classified as objects. -/
theorem mem_structs_iff {type : Nat} :
    type ∈ structs table ↔ (model table).classify type = .ok .object := by
  rw [structs, List.mem_filter]
  constructor
  · rintro ⟨-, hmatch⟩
    split at hmatch
    · assumption
    · cases hmatch
  · intro hobject
    refine ⟨List.mem_range.mpr (lt_length_of_classify hobject (by decide)), ?_⟩
    rw [hobject]

end Scripted

open Relation TypeModel Scripted

attribute [local instance] Environment.plain

def linkRef : ClassRef := .declared 0 "Link" .model

def linkModule (next : Annotation) : Module where
  classes :=
    [{ declaration :=
        { name := "Link", flavour := .model, bases := [.model], doc := none
          body := [.annotated "next" next .none], source := .faithful }
       qualname := "Link"
       linear := [linkRef, .model, .object]
       annotations := [("next", next)]
       optionalKeys := []
       dataFields := none
       modelFields := some [("next", ⟨next, false, none, none⟩)]
       enumerators := [] }]
  names := [("Link", .cls linkRef)]
  named := 1

/-- A synonym whose value is found late. -/
def links : Annotation := .synonym 0 "Links" .ellipsis

/-- The synonym stands for the lists of a type. -/
def listsOf (t : Annotation) : LateValues :=
  [(0, .generic (.cls (.builtin "list")) [t])]

def listModel (t : Annotation) : TypeModel Annotation Annotation :=
  (linkModule links).lateModel (listsOf t)

/-- No bound on the nesting suffices for a synonym that stands for the lists of itself. -/
theorem compile_listed_in_itself (depth : Nat) :
    ((listModel links).compileUnder depth [] links).outcome = .error .unbounded := by
  induction depth with
  | zero => rfl
  | succ depth ih =>
    have hcategory : (listModel links).classify links = .ok .array := rfl
    have helement : (listModel links).element? links = some links := rfl
    have htags : Symbol.tagTextsOf ((listModel links).symbol links) = .ok [] := rfl
    simp only [compileUnder, compileStep, Logged.outcome_bind, Logged.outcome_lift, htags, hcategory,
      Outcome.ok_bind, build, helement, ih]
    rfl

/-- A synonym that stands for itself has no value. -/
theorem exposedWithin_itself (steps : Nat) : links.exposedWithin [(0, links)] steps = none := by
  induction steps with
  | zero => rfl
  | succ steps ih => exact congrArg (Option.map _) ih

end Schematic
