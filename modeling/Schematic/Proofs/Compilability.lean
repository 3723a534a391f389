import Schematic.Proofs.RecursionPath
import Schematic.Proofs.Termination

/-!
# Which types compile

Whether a type has a schema is a property of the graph of types below it: every type there
keeps the rules, and no type leads to itself. A compilation that succeeds compiles every
type below, each with a smaller bound, so that none of them is on a cycle; one that fails
breaks a rule at a type below.
-/

namespace Schematic.Scripted

open Relation TypeModel

/-- Every type below a root keeps the rules, and none leads to itself. -/
structure Compilable (table : Table) (root : Nat) : Prop where
  supported : ∀ type, ReflTransGen (model table).Successor root type →
    ∀ category ∈ [Category.tuple, .intersection, .unsupported],
      (model table).classify type ≠ .ok category
  unions : ∀ type, ReflTransGen (model table).Successor root type →
    (model table).classify type = .ok .union → IsEnumeration table type
  ignored : ∀ type, ReflTransGen (model table).Successor root type →
    (model table).classify type = .ok .object → ∀ member ∈ (record table type).members,
      Symbol.hasTag Constraint.ignoreTag member.symbol = true → isOptional table member = true
  acyclic : ∀ type, ReflTransGen (model table).Successor root type →
    ¬ TransGen (model table).Successor type type

variable {table : Table} {root : Nat}

/-! ## Success -/

/-- What compiles is of no category that is refused. -/
theorem supported_of_compiles {depth type : Nat} (h : (model table).Compiles depth type) :
    ∀ category ∈ [Category.tuple, .intersection, .unsupported],
      (model table).classify type ≠ .ok category := by
  intro category hmem hclassify
  obtain ⟨depth', base, -, hbase⟩ := h.exists_built hclassify
  cases hbase <;> simp at hmem

/-- A union that compiles is one of literals alone. -/
theorem isEnumeration_of_compiles {depth type : Nat} (h : (model table).Compiles depth type)
    (hunion : (model table).classify type = .ok .union) : IsEnumeration table type := by
  obtain ⟨depth', base, -, hbase⟩ := h.exists_built hunion
  cases hbase with
  | union hvalues => exact (isEnumeration_iff hvalues).mpr (List.cons_ne_nil _ _)

theorem isOptional_of_compiles {depth type : Nat} (h : (model table).Compiles depth type)
    (hobject : (model table).classify type = .ok .object) {member : Member Nat}
    (hmember : member ∈ (record table type).members)
    (hignored : Symbol.hasTag Constraint.ignoreTag member.symbol = true) :
    isOptional table member = true := by
  obtain ⟨depth', base, -, hbase⟩ := h.exists_built hobject
  cases hbase with
  | object hmembers hproperties =>
    obtain rfl := model_members hmembers
    obtain ⟨property, -, hbuilt⟩ := Outcome.exists_of_mem_left hproperties hmember
    cases hbuilt with
    | ignored _ _ hoptional =>
      rw [model_isOptional] at hoptional
      exact Except.ok.inj hoptional
    | kept _ hkept _ _ _ => cases hkept.symm.trans hignored

/-- The rules hold below every root that compiles. -/
theorem compilable_of_compile {node : Node} (h : ((model table).compile root).outcome = .ok node) :
    Compilable table root := by
  rw [outcome_compile] at h
  have hroot : (model table).Compiles (nesting table) root := ⟨[], node, h⟩
  have hbelow : ∀ type, ReflTransGen (model table).Successor root type →
      ∃ depth, (model table).Compiles depth type := fun _ ↦ hroot.of_reflTransGen
  exact
    { supported := by
        intro type htype
        obtain ⟨depth, hcompiles⟩ := hbelow type htype
        exact supported_of_compiles hcompiles
      unions := by
        intro type htype hunion
        obtain ⟨depth, hcompiles⟩ := hbelow type htype
        exact isEnumeration_of_compiles hcompiles hunion
      ignored := by
        intro type htype hobject member hmember hignored
        obtain ⟨depth, hcompiles⟩ := hbelow type htype
        exact isOptional_of_compiles hcompiles hobject hmember hignored
      acyclic := by
        intro type htype
        obtain ⟨depth, hcompiles⟩ := hbelow type htype
        exact hcompiles.not_transGen_self }

/-! ## Failure -/

/-- A rejection breaks a rule at a type below the root. -/
theorem not_compilable_of_rejects {steps type : Nat} {frames : List Nat} {error : SchemaError}
    (hreached : Reached (model table) root steps frames type)
    (h : Rejects table frames type error) : ¬ Compilable table root := by
  intro hcompilable
  cases h with
  | category hcategory hrejected =>
    have hlisted : ∀ entry ∈ rejectedCategories,
        entry.1 ∈ [Category.tuple, .intersection, .unsupported] := by decide
    exact hcompilable.supported type hreached.successors _ (hlisted _ hrejected) hcategory
  | union hcategory hunion => exact hunion (hcompilable.unions type hreached.successors hcategory)
  | conflict hcategory hmember hignored hrequired =>
    have hoptional :=
      hcompilable.ignored type hreached.successors hcategory _ hmember hignored
    cases hrequired.symm.trans hoptional
  | reentered _ hopen =>
    have hcycle := (cycle_of_reached hreached hopen).transGen
    exact hcompilable.acyclic type hreached.successors
      (TransGen.closed (fun _ _ ↦ StructStep.successors) _ _ hcycle)

/-- There are three kinds of refusals: an unsupported type, an ignored member that is required, and
recursion. -/
theorem kind_of_rejects {type : Nat} {frames : List Nat} {error : SchemaError}
    (h : Rejects table frames type error) :
    (∃ rejection name, error = .unsupportedType rejection name) ∨
      (∃ member, error = .ignoreConflict member) ∨
      ∃ name path, error = .recursiveType name path := by
  cases h with
  | category => exact .inl ⟨_, _, rfl⟩
  | union => exact .inl ⟨_, _, rfl⟩
  | conflict => exact .inr (.inl ⟨_, rfl⟩)
  | reentered => exact .inr (.inr ⟨_, _, rfl⟩)

/-- A failure of a root is the refusal of a type that is reached from it. -/
theorem exists_rejects_of_compile (harrays : ArraysEnd table) (hreadable : Readable table)
    {failure : Failure} (h : ((model table).compile root).outcome = .error failure) :
    ∃ error details, failure = .schema error details ∧ ∃ steps frames type,
      Reached (model table) root steps frames type ∧ Rejects table frames type error := by
  obtain ⟨steps, frames, type, hreached, hfails⟩ := exists_failsAt_of_arraysEnd harrays h
  cases cause_of_failsAt hfails with
  | rejected details hrejects =>
    exact ⟨_, details, rfl, steps, frames, type, hreached, hrejects⟩
  | unreadable hunreadable => exact absurd (hreadable.record type) hunreadable.symbol

/-- A type compiles exactly when the types below it keep the rules and form no cycle; otherwise it
is rejected. -/
theorem compile_iff_compilable (table : Table) (harrays : ArraysEnd table)
    (hreadable : Readable table) (root : Nat) :
    ((∃ node, ((model table).compile root).outcome = .ok node) ↔ Compilable table root) ∧
      (¬ Compilable table root → ∃ error details,
        ((model table).compile root).outcome = .error (.schema error details) ∧
        ((∃ rejection name, error = .unsupportedType rejection name) ∨
          (∃ member, error = .ignoreConflict member) ∨
          ∃ name path, error = .recursiveType name path)) := by
  cases hcompile : ((model table).compile root).outcome with
  | ok node =>
    have hcompilable := compilable_of_compile hcompile
    exact ⟨iff_of_true ⟨node, rfl⟩ hcompilable, fun hnot ↦ absurd hcompilable hnot⟩
  | error failure =>
    obtain ⟨error, details, rfl, steps, frames, type, hreached, hrejects⟩ :=
      exists_rejects_of_compile harrays hreadable hcompile
    have hnot := not_compilable_of_rejects hreached hrejects
    exact ⟨iff_of_false (by simp) hnot, fun _ ↦ ⟨error, details, rfl, kind_of_rejects hrejects⟩⟩

theorem arraysEnd_entryTable : ArraysEnd entryTable := by
  have hstep : ∀ type element, (model entryTable).ElementStep type element → type < element := by
    intro type element hstep
    have hlt : type < 7 := lt_length_of_classify hstep.1 (by decide)
    have hforward : ∀ type < 7, ∀ element ∈ (record entryTable type).element, type < element := by
      decide
    exact hforward type hlt element hstep.2
  intro type hcycle
  have hself : type < type := by
    simpa [transGen_eq_self] using TransGen.mono hstep _ _ hcycle
  exact Nat.lt_irrefl type hself

theorem compile_iff_compilable_entry :
    ArraysEnd entryTable ∧ Readable entryTable ∧ ¬ Compilable entryTable 0 ∧
      Compilable entryTable 5 := by
  have harrays := arraysEnd_entryTable
  have hreadable : Readable entryTable := by
    unfold Readable
    decide
  have hrecursive : ((model entryTable).compile 0).outcome = .error (.schema
      (.recursiveType "Node" ["Entry", "Node", "Node", "Node"]) "") := rfl
  refine ⟨harrays, hreadable, fun hcompilable ↦ ?_, ?_⟩
  · obtain ⟨node, hnode⟩ := (compile_iff_compilable entryTable harrays hreadable 0).1.mpr hcompilable
    cases hrecursive.symm.trans hnode
  · exact (compile_iff_compilable entryTable harrays hreadable 5).1.mp ⟨_, rfl⟩

end Schematic.Scripted
