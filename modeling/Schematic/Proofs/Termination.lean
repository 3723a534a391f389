import Schematic.Proofs.Nesting
import Schematic.Proofs.Rejection

/-!
# Compilation terminates

No struct is open twice, and where no cycle of the graph of types consists of arrays alone,
no array is passed twice between two structs. Both kinds of types are among the finitely
many of the table, so a descent is shorter than the bound on the nesting.
-/

namespace Schematic.Scripted

open Relation TypeModel

/-- No cycle of the graph of types leads through arrays only. -/
def ArraysEnd (table : Table) : Prop :=
  ∀ type, ¬ TransGen (model table).ElementStep type type

/-- Beyond the table, a type belongs to no category. -/
theorem lt_length_of_classify {table : Table} {type : Nat} {category : Category}
    (h : (model table).classify type = .ok category) (hcategory : category ≠ .unsupported) :
    type < table.length := by
  by_contra hbeyond
  have hblank : record table type = {} := by
    rw [record, List.getElem?_eq_none (Nat.le_of_not_lt hbeyond)]
    rfl
  have hunsupported : (model table).classify type = .ok .unsupported := by
    simp only [classify, classifyShape, model, hblank]
    rfl
  exact hcategory (Except.ok.inj (h.symm.trans hunsupported))

variable {table : Table} {root steps type : Nat} {frames : List Nat}

/-- No more structs are open than a table has entries. -/
theorem length_frames_le (h : Distinct (model table) frames) : frames.length ≤ table.length := by
  have hdistinct : frames.Nodup := h.distinct.imp fun {a b} hne heq ↦ hne (beq_iff_eq.mpr heq)
  have hsubset : frames ⊆ List.range table.length := fun frame hframe ↦
    List.mem_range.mpr (lt_length_of_classify (h.classified frame hframe) (by decide))
  calc
    frames.length ≤ (List.range table.length).length := hdistinct.length_le_of_subset hsubset
    _ = table.length := List.length_range

/-- Every descent is shorter than the bound on the nesting. -/
theorem steps_lt_nesting (harrays : ArraysEnd table)
    (h : Reached (model table) root steps frames type) : steps < nesting table := by
  have hlisted : ∀ type element, ReflTransGen (model table).Successor root type →
      (model table).ElementStep type element → type ∈ List.range table.length :=
    fun type element _ helement ↦
      List.mem_range.mpr (lt_length_of_classify helement.1 (by decide))
  have hlt := steps_lt (fun type _ ↦ harrays type) hlisted
    (fun _ htogether ↦ length_frames_le htogether.distinct) h
  rw [List.length_range] at hlt
  exact hlt.trans (Nat.lt_succ_self _)

/-- A compilation that fails gets to a type that fails. -/
theorem exists_failsAt_of_arraysEnd (harrays : ArraysEnd table) {failure : Failure}
    (h : ((model table).compile root).outcome = .error failure) :
    ∃ steps frames type, Reached (model table) root steps frames type ∧
      (model table).FailsAt frames type failure := by
  obtain ⟨steps, frames, type, hreached, ⟨hsteps, -⟩ | hfails⟩ := exists_failsAt_of_compile h
  · exact absurd hsteps (Nat.ne_of_lt (steps_lt_nesting harrays hreached))
  · exact ⟨steps, frames, type, hreached, hfails⟩

end Schematic.Scripted
