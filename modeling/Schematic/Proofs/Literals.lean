import Schematic.Proofs.ClassShape
import Schematic.Proofs.LiteralQueries
import Schematic.Proofs.PassFailures
import Schematic.Proofs.TagLines
import Schematic.Proofs.WellFormedValues

/-!
# Literals and enumerations

A literal of one value is a constant, and a literal of several values is an enumeration of them, if all
of them are texts, numbers or truth values. A member of an enumeration stands for its value. The values
that the members of an enumeration stand for are taken in the order of their definition: the texts and
numbers, or else the truth values. A value is told apart by the flags of a literal of it alone; a truth
value goes through the text that it is shown as.

A literal of several values is taken apart into literals of one value each, and there a tuple is not
one value but the list of its items.
-/

namespace Schematic

/-- The types of the literals that have a schema. -/
inductive LiteralType where
  | string
  | number
  | boolean
  deriving DecidableEq, Repr

namespace LiteralType

def name : LiteralType → String
  | string => "string"
  | number => "number"
  | boolean => "boolean"

def flag : LiteralType → Flag
  | string => .stringLiteral
  | number => .numberLiteral
  | boolean => .booleanLiteral

def category : LiteralType → Category
  | string => .stringLiteral
  | number => .numberLiteral
  | boolean => .booleanLiteral

/-- The flag of a literal alone decides its category. -/
theorem categoryOfFlags?_flag (type : LiteralType) :
    TypeModel.categoryOfFlags? [type.flag] = some type.category := by
  cases type <;> rfl

end LiteralType

namespace Value

/-- The type of a literal of a value; a member stands for its value. -/
def literalType? (v : Value) : Option LiteralType :=
  match v.underlying.plain with
  | .bool _ => some .boolean
  | .int _ | .float _ => some .number
  | .str _ => some .string
  | _ => Option.none

/-- Whether a value is a text or a number, but no truth value. -/
def isTextOrNumber (v : Value) : Bool :=
  v.literalType?.any (· ≠ .boolean)

/-- A tuple that a literal takes for its one item, which is of a type that has a schema. -/
def IsSpread (v : Value) : Prop :=
  ∃ items item, v.plain = .tuple items ∧ distinct items = [item] ∧ item.literalType?.isSome = true

variable {v : Value} {type : LiteralType}

/-- A value of a literal type has the flag of this type alone. -/
theorem flags_of_literalType (h : v.literalType? = some type) : v.flags = [type.flag] := by
  unfold literalType? at h
  unfold flags
  cases hplain : v.underlying.plain <;> rw [hplain] at h <;> cases h <;> rfl

theorem isLiteral_of_literalType?_none (h : v.literalType? = Option.none) : v.flags.isLiteral = false := by
  unfold literalType? at h
  unfold flags
  cases hplain : v.underlying.plain <;> rw [hplain] at h <;> cases h <;> rfl

theorem isTextOrNumber_flags (v : Value) : v.flags.isTextOrNumber = v.isTextOrNumber := by
  unfold isTextOrNumber
  cases h : v.literalType? with
  | none =>
    have hflags := isLiteral_of_literalType?_none h
    rw [Flags.isLiteral, Bool.or_eq_false_iff] at hflags
    exact hflags.1
  | some type =>
    rw [flags_of_literalType h]
    cases type <;> rfl

/-- A tuple is of no such type, not even as a member of an enumeration of tuples. -/
theorem literalType?_of_tuple {items : List Value} (h : v.plain = .tuple items) :
    v.literalType? = Option.none := by
  have hunderlying : v.underlying.plain = .tuple items := by
    cases v with
    | member owner name value =>
      rw [plain] at h
      split at h
      · cases h
      · rw [underlying, h]
        rfl
    | _ => exact h
  rw [literalType?, hunderlying]

theorem toJson_underlying (v : Value) : v.underlying.toJson = v.toJson := by
  cases v with
  | member owner name value => rw [underlying, toJson]
  | _ => rfl

theorem toJson_plain (v : Value) : v.plain.toJson = v.toJson := by
  cases v with
  | member owner name value =>
    rw [plain]
    split
    · rfl
    · rw [toJson]
  | _ => rfl

/-- A literal of a truth value, and no other one, is a truth value as JSON. -/
theorem boolean_iff (h : v.literalType? = some type) : type = .boolean ↔ ∃ b, v.toJson = .bool b := by
  rw [← toJson_underlying, ← toJson_plain]
  unfold literalType? at h
  cases hplain : v.underlying.plain <;> rw [hplain] at h <;> cases h <;> simp [toJson]

/-- A well-formed literal of a truth value stands for that truth value itself. -/
theorem WellFormed.exists_bool (hv : v.WellFormed) (h : v.literalType? = some .boolean) :
    ∃ b, v.underlying = .bool b ∧ v.toJson = .bool b := by
  unfold literalType? at h
  cases hplain : v.underlying.plain with
  | bool b =>
    have hbool : v.underlying = .bool b := hv.underlying.eq_bool hplain
    refine ⟨b, hbool, ?_⟩
    rw [← toJson_underlying, hbool]
    rfl
  | _ => simp [hplain] at h

end Value

/-- A pass without tags and description changes nothing. -/
theorem Constraint.applied_nil {node : Node} (h : HasTextType node) :
    (applied node [] none).outcome = .ok node := by
  obtain ⟨gate, hgate⟩ := h.exists_gate
  rw [applied_eq_ok hgate (by decide) none]
  cases gate <;> rfl

namespace Module

variable {m : Module} {t : Annotation} {v : Value} {type : LiteralType}

theorem unionMembers_literal (m : Module) (values : List Value) :
    m.unionMembers (.literal values) = values.map Annotation.literalOfValue :=
  rfl

theorem hasTextType_of_get? {node : Node} {type : String}
    (h : Dict.get? "type" node = some (.str type)) : Constraint.HasTextType node :=
  fun _ hfound ↦ ⟨type, Option.some.inj (hfound.symm.trans h)⟩

/-- A value of a literal type is a literal by itself. -/
theorem literalOfValue_of_literalType (htype : v.literalType? ≠ none) :
    Annotation.literalOfValue v = .literal [v] := by
  unfold Annotation.literalOfValue
  split
  · rename_i items hitems
    exact absurd (Value.literalType?_of_tuple hitems) htype
  · rfl

variable [Environment]

/-! ## Answers about literals -/

/-- An annotation is a literal of a value: it has the flags of that value, and is shown as what the
value stands for. -/
structure IsLiteralOf (m : Module) (t : Annotation) (v : Value) : Prop where
  flags : m.flags t = .ok v.flags
  value : t.literalValue = .ok v.underlying
  render : t.render = String.ofList v.underlying.repr

/-- A literal of one value is a literal of that value. -/
theorem isLiteralOf_literal (m : Module) (v : Value) : m.IsLiteralOf (.literal [v]) v :=
  ⟨rfl, rfl, rfl⟩

/-- A member of an enumeration is a literal of itself. -/
theorem isLiteralOf_member (m : Module) (owner : Enumeration) (name : Option String) (v : Value) :
    m.IsLiteralOf (.value (.member owner name v)) (.member owner name v) :=
  ⟨rfl, rfl, rfl⟩

theorem IsLiteralOf.literal (h : m.IsLiteralOf t v) : m.model.literal t = .ok v.toJson := by
  change t.literalValue.map Value.toJson = _
  rw [h.value, ← v.toJson_underlying]
  rfl

/-- The rendering of a truth value tells which one it is. -/
theorem IsLiteralOf.isTrueLiteral (h : m.IsLiteralOf t v) (hv : v.WellFormed)
    (htype : v.literalType? = some .boolean) : .bool (m.model.isTrueLiteral t) = v.toJson := by
  obtain ⟨b, hbool, hjson⟩ := hv.exists_bool htype
  have hrender : m.model.render t = String.ofList (Value.bool b).repr := hbool ▸ h.render
  rw [TypeModel.isTrueLiteral, hrender, hjson]
  cases b <;> rfl

theorem isTextOrNumber_classFlags (m : Module) (ref : ClassRef) :
    (m.classFlags ref).isTextOrNumber = false := by
  unfold classFlags structFlags
  split
  all_goals try rfl
  split
  · rfl
  · split <;> rfl

/-- Where the flags tell of a string or number literal, there is a value. -/
theorem exists_literal {flags : Flags} (hflags : m.flags t = .ok flags)
    (h : flags.isTextOrNumber = true) : ∃ value, m.model.literal t = .ok value := by
  change ∃ value, t.literalValue.map Value.toJson = .ok value
  unfold Module.flags at hflags
  unfold Annotation.literalValue
  split at hflags
  · cases hflags
    rw [isTextOrNumber_classFlags] at h
    cases h
  · cases hflags
    cases h
  · rename_i hstrip
    rw [hstrip]
    exact ⟨_, rfl⟩
  · rename_i hstrip
    rw [hstrip]
    exact ⟨_, rfl⟩
  · cases hflags
    cases h
  · cases hflags
    cases h
  · obtain ⟨isArray, -, hflags⟩ := Outcome.bind_eq_ok_iff.mp hflags
    split at hflags
    · cases hflags
      cases h
    · cases hflags
      cases h

/-! ## Values of unions -/

/-- Literals have the values that are written in them. -/
theorem literalValues_of_literals {types : List Annotation} {values : List Value}
    (h : List.Forall₂ m.IsLiteralOf types values) (hwell : ∀ v ∈ values, v.WellFormed)
    (htypes : ∀ v ∈ values, v.literalType? ≠ none) :
    m.model.literalValues types = .ok (some (values.map Value.toJson)) := by
  induction h with
  | nil => rfl
  | @cons t v types values hfirst _ ih =>
    obtain ⟨hv, hwell⟩ := List.forall_mem_cons.mp hwell
    obtain ⟨hsome, htypes⟩ := List.forall_mem_cons.mp htypes
    obtain ⟨type, htype⟩ := Option.ne_none_iff_exists'.mp hsome
    have hflags : m.model.flags t = .ok [type.flag] :=
      hfirst.flags.trans (congrArg _ (Value.flags_of_literalType htype))
    rw [TypeModel.literalValues, hflags, ih hwell htypes, List.map_cons]
    cases type with
    | boolean =>
      rw [← hfirst.isTrueLiteral hv htype]
      rfl
    | string | number =>
      rw [hfirst.literal]
      rfl

/-- A type that is no literal keeps a union from having values. -/
theorem literalValues_eq_none {types : List Annotation}
    (hflags : ∀ t ∈ types, ∃ flags, m.flags t = .ok flags)
    (h : ∃ t ∈ types, ∃ flags, m.flags t = .ok flags ∧ flags.isLiteral = false) :
    m.model.literalValues types = .ok none := by
  induction types with
  | nil => simp at h
  | cons t types ih =>
    obtain ⟨⟨flags, ht⟩, hflags⟩ := List.forall_mem_cons.mp hflags
    have hanswer : m.model.flags t = .ok flags := ht
    rw [TypeModel.literalValues, hanswer, Outcome.ok_bind]
    cases hliteral : flags.isLiteral with
    | false => rfl
    | true =>
      have hrest : m.model.literalValues types = .ok none := by
        obtain ⟨other, hother, otherFlags, hotherFlags, hnone⟩ := h
        rcases List.mem_cons.mp hother with rfl | hmem
        · cases ht.symm.trans hotherFlags
          cases hliteral.symm.trans hnone
        · exact ih hflags ⟨other, hmem, otherFlags, hotherFlags, hnone⟩
      rw [hrest]
      cases hboolean : flags.contains .booleanLiteral with
      | true => rfl
      | false =>
        have htext : flags.isTextOrNumber = true := by
          rwa [Flags.isLiteral, hboolean, Bool.or_false] at hliteral
        obtain ⟨value, hvalue⟩ := exists_literal ht htext
        simp only [hvalue]
        rfl

/-- Where truth values are not asked for, they are left out. -/
theorem textAndNumberValues_of_literals {types : List Annotation} {values : List Value}
    (h : List.Forall₂ m.IsLiteralOf types values) :
    m.model.textAndNumberValues types =
      .ok ((values.filter Value.isTextOrNumber).map Value.toJson) := by
  induction h with
  | nil => rfl
  | @cons t v types values hfirst _ ih =>
    have hflags : m.model.flags t = .ok v.flags := hfirst.flags
    rw [TypeModel.textAndNumberValues, hflags, ih, hfirst.literal, List.filter_cons,
      Outcome.ok_bind, Value.isTextOrNumber_flags]
    cases v.isTextOrNumber <;> rfl

/-! ## Compilations -/

theorem depth_ne_zero (m : Module) (t : Annotation) : m.model.depth t ≠ 0 :=
  Nat.succ_ne_zero (t.height + m.classHeights)

theorem classify_of_flag (h : m.flags t = .ok [type.flag]) :
    m.model.classify t = .ok type.category :=
  TypeModel.classify_of_category h type.categoryOfFlags?_flag

/-! ## Literals -/

/-- What a literal is compiled to that keeps the given values. -/
structure CompilesLiteral (m : Module) (t : Annotation) (values : List Value) : Prop where
  single {v : Value} {type : LiteralType} (hvalues : values = [v]) (htype : v.literalType? = some type) :
    (m.model.compile t).outcome = .ok [("type", .str type.name), ("const", v.toJson)] ∧
      (type = .boolean ↔ ∃ b, v.toJson = .bool b)
  several (hseveral : 1 < values.length) (htypes : ∀ v ∈ values, v.literalType? ≠ none) :
    (m.model.compile t).outcome = .ok [("enum", .arr (values.map Value.toJson))]
  other (hseveral : 1 < values.length) (hother : ∃ v ∈ values, v.literalType? = none ∧ ¬ v.IsSpread) :
    (m.model.compile t).outcome = .error (.ofError (.unsupportedType .complexUnion t.render))

theorem tagTextsOf_literal (m : Module) (values : List Value) :
    Symbol.tagTextsOf (m.model.symbol (.literal values)) = .ok [] :=
  rfl

/-- A literal of several values is treated as a union. -/
theorem classify_literal {values : List Value} (hseveral : 1 < values.length) :
    m.model.classify (.literal values) = .ok .union := by
  match values, hseveral with
  | _ :: _ :: _, _ => rfl

/-- A literal of one value is compiled to its type and its value, with the documentation laid over
them. -/
theorem outcome_compile_of_isLiteralOf {tags : Dict String} (h : m.IsLiteralOf t v)
    (hv : v.WellFormed) (htype : v.literalType? = some type)
    (htags : Symbol.tagTextsOf (m.model.symbol t) = .ok tags) :
    (m.model.compile t).outcome =
      (Constraint.applied [("type", .str type.name), ("const", v.toJson)] tags
        (Symbol.descriptionOf (m.model.symbol t))).outcome := by
  have hcategory : m.model.classify t = .ok type.category :=
    classify_of_flag (h.flags.trans (congrArg _ (Value.flags_of_literalType htype)))
  have hbuild (compileType : TypeModel.Open Annotation → Annotation → Logged Node) :
      (m.model.build compileType [] t type.category).outcome =
        .ok [("type", .str type.name), ("const", v.toJson)] := by
    cases type with
    | boolean =>
      rw [← h.isTrueLiteral hv htype]
      rfl
    | string | number =>
      rw [LiteralType.category, TypeModel.build, h.literal]
      rfl
  exact TypeModel.outcome_compile_of_build (m.depth_ne_zero t) htags hcategory hbuild

/-- One value makes a constant with its type. -/
theorem compile_singleLiteral (m : Module) (hv : v.WellFormed) (htype : v.literalType? = some type) :
    (m.model.compile (.literal [v])).outcome =
      .ok [("type", .str type.name), ("const", v.toJson)] := by
  rw [outcome_compile_of_isLiteralOf (m.isLiteralOf_literal v) hv htype (m.tagTextsOf_literal [v])]
  exact Constraint.applied_nil (hasTextType_of_get? rfl)

theorem exists_flags_literal (m : Module) (values : List Value) :
    ∃ flags, m.flags (.literal values) = .ok flags := by
  match values with
  | [] | _ :: _ :: _ => exact ⟨[.union], rfl⟩
  | [v] => exact ⟨v.flags, rfl⟩

theorem exists_flags_literalOfValue (m : Module) (v : Value) :
    ∃ flags, m.flags (.literalOfValue v) = .ok flags := by
  unfold Annotation.literalOfValue
  split
  · exact m.exists_flags_literal _
  · exact ⟨v.flags, rfl⟩

/-- A value that is told apart as no literal is none among the members of a union either, unless it is
taken for its one item. -/
theorem flags_literalOfValue (hnone : v.literalType? = none) (hspread : ¬ v.IsSpread) :
    ∃ flags, m.flags (.literalOfValue v) = .ok flags ∧ flags.isLiteral = false := by
  unfold Annotation.literalOfValue
  split
  · rename_i items hitems
    unfold Annotation.literalOf
    match hdistinct : Value.distinct items with
    | [] | _ :: _ :: _ => exact ⟨[.union], rfl, rfl⟩
    | [item] =>
      have hitem : item.literalType? = none := by
        by_contra hsome
        exact hspread ⟨items, item, hitems, hdistinct, Option.isSome_iff_ne_none.mpr hsome⟩
      exact ⟨item.flags, rfl, Value.isLiteral_of_literalType?_none hitem⟩
  · exact ⟨v.flags, rfl, Value.isLiteral_of_literalType?_none hnone⟩

theorem compile_severalLiterals (m : Module) {values : List Value}
    (hwell : ∀ v ∈ values, v.WellFormed) (hseveral : 1 < values.length)
    (htypes : ∀ v ∈ values, v.literalType? ≠ none) :
    (m.model.compile (.literal values)).outcome = .ok [("enum", .arr (values.map Value.toJson))] := by
  have hliterals : List.Forall₂ m.IsLiteralOf (m.unionMembers (.literal values)) values := by
    rw [unionMembers_literal, List.forall₂_map_left_iff, List.forall₂_same]
    intro v hv
    rw [literalOfValue_of_literalType (htypes v hv)]
    exact m.isLiteralOf_literal v
  have hne : values.map Value.toJson ≠ [] := by
    intro hnil
    rw [List.map_eq_nil_iff.mp hnil] at hseveral
    cases hseveral
  rw [TypeModel.compile_union (m.depth_ne_zero _) (m.tagTextsOf_literal values)
    (classify_literal hseveral) (literalValues_of_literals hliterals hwell htypes) hne]
  exact Constraint.applied_nil (fun type htype ↦ by cases htype)

/-- One value without a schema makes the whole union too complex. -/
theorem compile_otherLiterals (m : Module) {values : List Value} (hseveral : 1 < values.length)
    (hother : ∃ v ∈ values, v.literalType? = none ∧ ¬ v.IsSpread) :
    (m.model.compile (.literal values)).outcome =
      .error (.ofError (.unsupportedType .complexUnion (m.model.render (.literal values)))) := by
  obtain ⟨v, hv, hnone, hspread⟩ := hother
  have hvalues : m.model.literalValues (m.unionMembers (.literal values)) = .ok none := by
    rw [unionMembers_literal]
    refine literalValues_eq_none (fun t ht ↦ ?_)
      ⟨_, List.mem_map_of_mem hv, flags_literalOfValue hnone hspread⟩
    obtain ⟨other, -, rfl⟩ := List.mem_map.mp ht
    exact exists_flags_literalOfValue m other
  exact TypeModel.compile_complexUnion (m.depth_ne_zero _) (m.tagTextsOf_literal values)
    (classify_literal hseveral) hvalues rfl

theorem compilesLiteral (m : Module) {values : List Value} (hwell : ∀ v ∈ values, v.WellFormed) :
    m.CompilesLiteral (.literal values) values where
  single hvalues htype := by
    subst hvalues
    exact ⟨m.compile_singleLiteral (hwell _ List.mem_cons_self) htype, Value.boolean_iff htype⟩
  several hseveral htypes := m.compile_severalLiterals hwell hseveral htypes
  other hseveral hother := m.compile_otherLiterals hseveral hother

end Module

end Schematic
