import Schematic.Proofs.Answers
import Schematic.Proofs.Descent

/-!
# Why a type is rejected

A scripted model answers every question, so a compilation that fails at a type breaks one
of four rules there, or meets a symbol whose tags cannot be read. The rules give schema
errors, and tags that cannot be read give failures of other kinds.
-/

namespace Schematic

namespace Scripted

open TypeModel

/-- The symbols of all types and of all members have tags that can be read. -/
def Readable (table : Table) : Prop :=
  ∀ entry ∈ table, Symbol.Readable entry.symbol ∧
    ∀ member ∈ entry.members, Symbol.Readable member.symbol

theorem Readable.record {table : Table} (h : Readable table) (type : Nat) :
    Symbol.Readable (record table type).symbol ∧
      ∀ member ∈ (record table type).members, Symbol.Readable member.symbol := by
  unfold Scripted.record
  cases hentry : table[type]? with
  | none => exact ⟨Symbol.readable_none, by simp⟩
  | some entry => exact h entry (List.mem_of_getElem? hentry)

/-! ## Unions -/

/-- Literals are looked at one after the other. -/
theorem literalValues_cons (table : Table) (type : Nat) (rest : List Nat) :
    (model table).literalValues (type :: rest) =
      if (record table type).flags.isLiteral then
        (model table).literalValues rest >>= fun values ↦ pure (values.map
          ((if (record table type).flags.contains .booleanLiteral then
            .bool ((model table).isTrueLiteral type) else (record table type).value) :: ·))
      else pure none := by
  change (if !(record table type).flags.isLiteral then _ else _) = _
  cases (record table type).flags.isLiteral with
  | false => rfl
  | true =>
    cases hboolean : (record table type).flags.contains .booleanLiteral <;> rfl

/-- A union has values exactly when all of its members are literals, and then one for each. -/
theorem literalValues_cases (table : Table) (types : List Nat) :
    (∃ values, (model table).literalValues types = .ok (some values) ∧
        values.length = types.length ∧
        ∀ type ∈ types, (record table type).flags.isLiteral = true) ∨
      ((model table).literalValues types = .ok none ∧
        ∃ type ∈ types, (record table type).flags.isLiteral = false) := by
  induction types with
  | nil => exact .inl ⟨[], rfl, rfl, by simp⟩
  | cons type rest ih =>
    rw [literalValues_cons]
    cases hliteral : (record table type).flags.isLiteral with
    | false => exact .inr ⟨rfl, type, List.mem_cons_self, hliteral⟩
    | true =>
      rcases ih with ⟨values, hvalues, hlength, hall⟩ | ⟨hnone, other, hother, hfalse⟩
      · rw [hvalues]
        refine .inl ⟨_, rfl, by simp [hlength], ?_⟩
        exact List.forall_mem_cons.mpr ⟨hliteral, hall⟩
      · rw [hnone]
        exact .inr ⟨rfl, other, List.mem_cons_of_mem _ hother, hfalse⟩

/-- A union has members, and they are all string, number or boolean literals. -/
def IsEnumeration (table : Table) (type : Nat) : Prop :=
  (record table type).union ≠ [] ∧
    ∀ member ∈ (record table type).union, (record table member).flags.isLiteral = true

/-- A union has a schema exactly where its members have values. -/
theorem isEnumeration_iff {table : Table} {type : Nat} {values : Option (List Json)}
    (h : (model table).literalValues (record table type).union = .ok values) :
    IsEnumeration table type ↔ values.getD [] ≠ [] := by
  rcases literalValues_cases table (record table type).union with
    ⟨values', hvalues, hlength, hall⟩ | ⟨hnone, member, hmember, hfalse⟩
  · obtain rfl : some values' = values := Except.ok.inj (hvalues.symm.trans h)
    rw [IsEnumeration, and_iff_left hall, Option.getD_some, not_iff_not,
      ← List.length_eq_zero_iff, ← hlength, List.length_eq_zero_iff]
  · obtain rfl : none = values := Except.ok.inj (hnone.symm.trans h)
    refine iff_of_false (fun hall ↦ ?_) (by simp)
    rw [hall.2 member hmember] at hfalse
    cases hfalse

/-! ## The rules -/

/-- The categories that have no schema, with the rules by which they are rejected. -/
def rejectedCategories : List (Category × Rejection) :=
  [(.tuple, .tuple), (.intersection, .intersection), (.unsupported, .unsupported)]

/-- The errors by which a type is rejected while some structs are open, outermost first. -/
inductive Rejects (table : Table) (frames : List Nat) (type : Nat) : SchemaError → Prop where
  | category {category : Category} {rejection : Rejection}
      (hcategory : (model table).classify type = .ok category)
      (hrejected : (category, rejection) ∈ rejectedCategories) :
      Rejects table frames type (.unsupportedType rejection (record table type).name)
  | union (hcategory : (model table).classify type = .ok .union)
      (hunion : ¬ IsEnumeration table type) :
      Rejects table frames type (.unsupportedType .complexUnion (record table type).name)
  | conflict {member : Member Nat} (hcategory : (model table).classify type = .ok .object)
      (hmember : member ∈ (record table type).members)
      (hignored : Symbol.hasTag Constraint.ignoreTag member.symbol = true)
      (hrequired : isOptional table member = false) :
      Rejects table frames type (.ignoreConflict member.name)
  | reentered (hcategory : (model table).classify type = .ok .object) (hopen : type ∈ frames) :
      Rejects table frames type (.recursiveType (record table type).name
        ((frames ++ [type]).map fun frame ↦ (record table frame).name))

/-- Failures other than schema errors come from symbols with tags that cannot be read. -/
structure Unreadable (table : Table) (type : Nat) (failure : Failure) : Prop where
  kind : failure = .overlongInteger ∨ ∃ problems, failure = .invalid problems
  symbol : ¬ (Symbol.Readable (record table type).symbol ∧
    ∀ member ∈ (record table type).members, Symbol.Readable member.symbol)

/-- Why a type fails while some structs are open. -/
inductive Cause (table : Table) (frames : List Nat) (type : Nat) : Failure → Prop where
  | rejected {error : SchemaError} (details : String) (h : Rejects table frames type error) :
      Cause table frames type (.schema error details)
  | unreadable {failure : Failure} (h : Unreadable table type failure) :
      Cause table frames type failure

theorem Unreadable.ne_schema {table : Table} {type : Nat} {failure : Failure}
    (h : Unreadable table type failure) (error : SchemaError) (details : String) :
    failure ≠ .schema error details := by
  rcases h.kind with rfl | ⟨problems, rfl⟩ <;> exact nofun

theorem not_readable_of_tags {symbol : Option Symbol} {failure : Failure}
    (h : Symbol.tagTextsOf symbol = .error failure) : ¬ Symbol.Readable symbol := by
  intro hreadable
  obtain ⟨tags, htags⟩ := Symbol.tagTextsOf_eq_ok hreadable.named
  cases htags.symm.trans h

theorem not_readable_of_pass {symbol : Option Symbol} {node : Node} {tags : Dict String}
    {description : Option String} {gate : Constraint.Gate} {failure : Failure}
    (htags : Symbol.tagTextsOf symbol = .ok tags)
    (hgate : Constraint.gate (Dict.get? "type" node) = .ok gate)
    (h : (Constraint.applied node tags description).outcome = .error failure) :
    ¬ Symbol.Readable symbol := by
  intro hreadable
  obtain ⟨result, hresult⟩ :=
    Constraint.applied_eq_ok_of_readable hreadable htags hgate description
  cases hresult.symm.trans h

theorem cause_of_memberFailed {table : Table} {frames : List Nat} {type : Nat} {typeName : String}
    {member : Member Nat} {failure : Failure}
    (hcategory : (model table).classify type = .ok .object)
    (hmember : member ∈ (record table type).members)
    (h : MemberFailed (model table)
      (fun _ node ↦ ∃ gate, Constraint.gate (Dict.get? "type" node) = .ok gate)
      (fun _ _ ↦ False) typeName member failure) :
    Cause table frames type failure := by
  cases h with
  | tags htags =>
    exact .unreadable ⟨.inr (Symbol.tagTextsOf_eq_error htags),
      fun hall ↦ not_readable_of_tags htags (hall.2 member hmember)⟩
  | optional hoptional => cases (model_isOptional table member).symm.trans hoptional
  | conflict hignored hoptional =>
    rw [model_isOptional, Except.ok.injEq] at hoptional
    exact .rejected _ (.conflict hcategory hmember hignored hoptional)
  | type _ hfailure => exact hfailure.elim
  | pass _ htags hnode hfailure =>
    obtain ⟨gate, hgate⟩ := hnode
    exact .unreadable ⟨.inl (Constraint.failure_of_applied hgate hfailure),
      fun hall ↦ not_readable_of_pass htags hgate hfailure (hall.2 member hmember)⟩

/-- The path of a recursion ends with the struct that closes it. -/
theorem recursive_append (name : String) (path : List String) :
    SchemaError.recursive name (path ++ [name]) = .recursiveType name (path ++ [name]) := by
  simp [SchemaError.recursive]

theorem cause_of_buildFailed {table : Table} {frames : List Nat} {type : Nat} {category : Category}
    {failure : Failure} (hcategory : (model table).classify type = .ok category)
    (h : BuildFailed (model table)
      (fun _ node ↦ ∃ gate, Constraint.gate (Dict.get? "type" node) = .ok gate)
      (fun _ _ ↦ False) (opened (model table) frames) type category failure) :
    Cause table frames type failure := by
  cases h with
  | literal _ hfailure => cases hfailure
  | enumValues hfailure =>
    obtain ⟨values, hok⟩ := enumValues_eq_ok table type
    cases hok.symm.trans hfailure
  | unionValues hfailure =>
    change (model table).literalValues (record table type).union = _ at hfailure
    rcases literalValues_cases table (record table type).union with ⟨_, hok, -⟩ | ⟨hok, -⟩ <;>
      cases hok.symm.trans hfailure
  | complexUnion hvalues hempty =>
    refine .rejected _ (.union hcategory ?_)
    rw [isEnumeration_iff hvalues]
    exact not_not.mpr hempty
  | element _ hfailure => exact hfailure.elim
  | reentered hopen =>
    rw [isOpen_opened_iff] at hopen
    have hframe : type ∈ frames := by simpa [model] using hopen
    have hpath : (opened (model table) frames).map Prod.snd ++ [(model table).render type] =
        (frames ++ [type]).map fun frame ↦ (record table frame).name := by
      simp [opened, model]
    rw [recursive_append, hpath]
    exact .rejected _ (.reentered hcategory hframe)
  | members hfailure => cases hfailure
  | member _ hmembers hmem hfailure =>
    rw [← model_members hmembers] at hmem
    exact cause_of_memberFailed hcategory hmem hfailure
  | tuple => exact .rejected _ (.category hcategory (by decide))
  | intersection => exact .rejected _ (.category hcategory (by decide))
  | unsupported => exact .rejected _ (.category hcategory (by decide))

/-- A type that fails breaks a rule or meets tags that cannot be read. -/
theorem cause_of_failsAt {table : Table} {frames : List Nat} {type : Nat} {failure : Failure}
    (h : (model table).FailsAt frames type failure) :
    Cause table frames type failure := by
  cases h with
  | tags htags =>
    exact .unreadable ⟨.inr (Symbol.tagTextsOf_eq_error htags),
      fun hall ↦ not_readable_of_tags htags hall.1⟩
  | category hcategory =>
    obtain ⟨category, hok⟩ := classify_eq_ok table type
    cases hok.symm.trans hcategory
  | pass htags hgate hfailure =>
    exact .unreadable ⟨.inl (Constraint.failure_of_applied hgate hfailure),
      fun hall ↦ not_readable_of_pass htags hgate hfailure hall.1⟩
  | build hcategory hbuild => exact cause_of_buildFailed hcategory hbuild

end Scripted

end Schematic
