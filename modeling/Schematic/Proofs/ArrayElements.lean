import Mathlib.Logic.Function.Iterate
import Schematic.Proofs.Literals
import Schematic.Proofs.Wrappers
import Schematic.Reference.Environment

/-!
# Elements of arrays

An array has the node of its element under `items`, and fails as its element fails. Nothing else
about the element matters, so the same holds of arrays of arrays: however deep they are nested, they
have the node of the innermost element in as many array nodes.

Three kinds of elements make an exception. A class takes `None` for its parameter as it is, and a
parameter that is `None` cannot be told from none; a form takes the type of `None` instead. A form
takes any text for a reference, also one that is a member of an enumeration. And an array is looked
up by its hash, so that elements without one, which may well have a schema, have no arrays.
-/

namespace Schematic

/-- Two failures of one class: types that one rule rejects, values that have no hash, or one and the
same failure. -/
inductive Failure.SameClass : Failure → Failure → Prop where
  | self (failure : Failure) : SameClass failure failure
  | rejected (rejection : Rejection) (typeName typeName' : String) :
      SameClass (.ofError (.unsupportedType rejection typeName))
        (.ofError (.unsupportedType rejection typeName'))
  | unhashable (kind kind' : String) : SameClass (.unhashable kind) (.unhashable kind')

theorem Failure.SameClass.trans {a b c : Failure} (hab : a.SameClass b) (hbc : b.SameClass c) :
    a.SameClass c := by
  cases hab with
  | self => exact hbc
  | rejected rejection =>
    cases hbc with
    | self => exact .rejected rejection _ _
    | rejected => exact .rejected rejection _ _
  | unhashable =>
    cases hbc with
    | self => exact .unhashable _ _
    | unhashable => exact .unhashable _ _

/-- Two outcomes that differ at most in the type that a failure names. -/
inductive Outcome.Matches {α : Type} : Except Failure α → Except Failure α → Prop where
  | ok (value : α) : Matches (.ok value) (.ok value)
  | error {failure failure' : Failure} (h : failure.SameClass failure') :
      Matches (.error failure) (.error failure')

namespace Outcome.Matches

variable {α β : Type} {a b c : Except Failure α}

theorem refl (a : Except Failure α) : Matches a a := by
  cases a with
  | ok value => exact .ok value
  | error failure => exact .error (.self failure)

theorem trans (hab : Matches a b) (hbc : Matches b c) : Matches a c := by
  cases hab with
  | ok => exact hbc
  | error h => cases hbc with | error h' => exact .error (h.trans h')

theorem map (f : α → β) (h : Matches a b) : Matches (a.map f) (b.map f) := by
  cases h with
  | ok value => exact .ok (f value)
  | error h => exact .error h

theorem eq_ok_iff (h : Matches a b) {value : α} : b = .ok value ↔ a = .ok value := by
  cases h with
  | ok => rfl
  | error => exact ⟨nofun, nofun⟩

theorem exists_error {failure : Failure} (h : Matches (.error failure) b) :
    ∃ failure', b = .error failure' ∧ failure.SameClass failure' := by
  cases h with | error h => exact ⟨_, rfl, h⟩

end Outcome.Matches

namespace TypeModel

variable {τ ι : Type} [BEq ι] {model : TypeModel τ ι} {type element : τ} {tags : Dict String}

/-- The node of an array of elements of the given node. -/
def arrayNode (items : Node) : Node :=
  [("type", .str "array"), ("items", .obj items)]

omit [BEq ι] in
/-- Elements are asked for where a type is an array. -/
theorem classify_array (hflags : model.flags type = .ok [.object])
    (harray : model.isArray type = .ok true) : model.classify type = .ok .array := by
  rw [classify_of_noUnion hflags rfl rfl, classifyShape, harray]
  rfl

/-- An array is compiled to a node around that of its element, with its own documentation laid over
it. The step into the element is within the bound on the nesting, and the element alone is compiled
within another bound; neither of them decides anything. -/
theorem outcome_compile_of_element (htype : Ends model type) (helement : Ends model element)
    (htags : Symbol.tagTextsOf (model.symbol type) = .ok tags)
    (hcategory : model.classify type = .ok .array) (hsome : model.element? type = some element) :
    (model.compile type).outcome = (model.compile element).outcome >>= fun items ↦
      (Constraint.applied (arrayNode items) tags
        (Symbol.descriptionOf (model.symbol type))).outcome := by
  have hlarge := htype.settled (max (model.depth type) (model.depth element) + 1) (by omega)
  have hinner := helement.settled (max (model.depth type) (model.depth element)) (by omega)
  rw [outcome_compile, outcome_compile, ← hlarge, ← hinner]
  simp only [compileUnder, compileStep, Logged.outcome_bind, Logged.outcome_lift, htags, hcategory,
    Outcome.ok_bind, build, hsome, bind_assoc, Logged.outcome_pure]
  rfl

/-- An array of which no element is known has a node of its own. -/
theorem outcome_compile_of_noElement (hdepth : model.depth type ≠ 0)
    (hsymbol : model.symbol type = none) (hcategory : model.classify type = .ok .array)
    (hnone : model.element? type = none) :
    (model.compile type).outcome = .ok [("type", .str "array")] := by
  have hbuild (compileType : Open ι → τ → Logged Node) :
      (model.build compileType [] type .array).outcome = .ok [("type", .str "array")] := by
    rw [build, hnone]
    rfl
  have htags : Symbol.tagTextsOf (model.symbol type) = .ok [] := by rw [hsymbol]; rfl
  rw [outcome_compile_of_build hdepth htags hcategory hbuild, hsymbol]
  exact Constraint.applied_nil (Module.hasTextType_of_get? rfl)

theorem outcome_compile_of_noCategory {failure : Failure} (hdepth : model.depth type ≠ 0)
    (hsymbol : model.symbol type = none) (hcategory : model.classify type = .error failure) :
    (model.compile type).outcome = .error failure := by
  obtain ⟨depth, hdepth⟩ := Nat.exists_eq_succ_of_ne_zero hdepth
  rw [outcome_compile, hdepth, compileUnder, compileStep, hsymbol, hcategory]
  rfl

end TypeModel

namespace Annotation

def bareBase : GenericBase → Annotation
  | .cls ref => .cls ref
  | .form name => .bare name

/-- What a base takes a type for as its parameter: a class takes it as it is. -/
def parameter (t : Annotation) : GenericBase → Annotation
  | .cls _ => t
  | .form _ => t.asType

/-- The array of arrays of elements of a type, through array classes and forms from the outside in. -/
def arrayOf (bases : List GenericBase) (t : Annotation) : Annotation :=
  bases.foldr (fun base inner ↦ genericOf base [inner]) t

/-- Whether the parameter of a base means what the type alone means, as far as a schema tells. -/
def IsKept (t : Annotation) : GenericBase → Prop
  | .cls _ => t.isNoneValue = false
  | .form _ => ∀ owner name v, t = .value (.member owner name v) →
      (Value.member owner name v).text? = none

theorem genericOf_singleton (base : GenericBase) (t : Annotation) :
    genericOf base [t] = .generic base [t.parameter base] := by
  cases base <;> rfl

theorem arrayOf_cons (base : GenericBase) (bases : List GenericBase) (t : Annotation) :
    arrayOf (base :: bases) t = .generic base [(arrayOf bases t).parameter base] :=
  genericOf_singleton base _

theorem strip_generic (base : GenericBase) (args : List Annotation) :
    (generic base args).strip = generic base args :=
  rfl

/-- Whether an array can be looked up depends on its element. -/
theorem unhashable?_generic (base : GenericBase) (t : Annotation) :
    (generic base [t]).unhashable? = t.unhashable? :=
  Option.or_none

/-- An array is kept as the parameter of another one. -/
theorem isKept_generic (base base' : GenericBase) (args : List Annotation) :
    (generic base' args).IsKept base := by
  cases base with
  | cls ref => rfl
  | form name => rintro owner value v ⟨⟩

/-- The kinds of elements that a base keeps: most are its parameter as they are, while a form takes
`None` for its type and a text for a reference. -/
theorem IsKept.cases {t : Annotation} {base : GenericBase} (h : t.IsKept base) :
    t.isNoneValue = false ∧ t.parameter base = t ∨
      t = noneValue ∧ t.parameter base = noneType ∨
      ∃ text, t = .value (.str text) ∧ t.parameter base = .forward text := by
  cases base with
  | cls ref => exact .inl ⟨h, rfl⟩
  | form name =>
    match t with
    | .value .none => exact .inr (.inl ⟨rfl, rfl⟩)
    | .value (.str text) => exact .inr (.inr ⟨text, rfl, rfl⟩)
    | .value (.member owner name v) =>
      refine .inl ⟨rfl, ?_⟩
      simp only [parameter, asType, h owner name v rfl]
    | .value (.bool _) | .value (.int _) | .value (.float _) | .value (.complex _ _)
    | .value (.bytes _) | .value (.list _) | .value (.tuple _) | .value (.cls _) => exact .inl ⟨rfl, rfl⟩
    | .cls _ | .ellipsis | .bare _ | .forward _ | .literal _ | .union _ _ | .generic _ _
    | .annotated _ _ | .qualified _ _ | .synonym _ _ _ | .newType _ _ _ | .collection _ _
    | .mapping _ | .function _ | .opaqueObject _ _ _ => exact .inl ⟨rfl, rfl⟩

/-- A parameter that is kept can be looked up alike. -/
theorem IsKept.unhashable?_parameter {t : Annotation} {base : GenericBase} (h : t.IsKept base) :
    (t.parameter base).unhashable? = t.unhashable? := by
  obtain ⟨-, hsame⟩ | ⟨rfl, hsame⟩ | ⟨text, rfl, hsame⟩ := h.cases
  · rw [hsame]
  · rw [hsame]
    rfl
  · rw [hsame]
    rfl

theorem IsKept.isNoneValue_parameter {t : Annotation} {base : GenericBase} (h : t.IsKept base) :
    (t.parameter base).isNoneValue = false := by
  obtain ⟨hsome, hsame⟩ | ⟨-, hsame⟩ | ⟨text, -, hsame⟩ := h.cases
  · rw [hsame]
    exact hsome
  · rw [hsame]
    rfl
  · rw [hsame]
    rfl

/-- The array inside an array is kept as it is, so only the innermost base could lose its parameter. -/
theorem isKept_arrayOf {t : Annotation} {base : GenericBase} {bases : List GenericBase}
    (h : ∀ last ∈ (base :: bases).getLast?, t.IsKept last) :
    (arrayOf bases t).IsKept base ∧ ∀ last ∈ bases.getLast?, t.IsKept last := by
  cases bases with
  | nil => exact ⟨h base rfl, fun last hlast ↦ by cases hlast⟩
  | cons next bases =>
    rw [arrayOf_cons]
    exact ⟨isKept_generic _ _ _, h⟩

theorem unhashable?_arrayOf {t : Annotation} {bases : List GenericBase}
    (h : ∀ last ∈ bases.getLast?, t.IsKept last) :
    (arrayOf bases t).unhashable? = t.unhashable? := by
  induction bases with
  | nil => rfl
  | cons base bases ih =>
    obtain ⟨hbase, hbases⟩ := isKept_arrayOf h
    rw [arrayOf_cons, unhashable?_generic, hbase.unhashable?_parameter, ih hbases]

end Annotation

namespace Module

open Annotation TypeModel

variable {m : Module} {t : Annotation} {base : GenericBase}

/-! ## One array -/

theorem isArray_generic (hbase : base.origin ∈ ClassRef.arrays) (hhash : t.unhashable? = none) :
    (generic base [t]).isArray = .ok true := by
  have horigin : ClassRef.arrays.contains base.origin = true := List.contains_iff_mem.mpr hbase
  unfold Annotation.isArray
  rw [strip_generic, unhashable?_generic, hhash]
  exact congrArg Except.ok horigin

section

variable [Environment]

/-- A parameterized annotation is a struct to its flags if it is an array or a tuple. -/
theorem flags_generic {kind : Except Failure Bool}
    (harray : (generic base [t]).isArray = kind) :
    m.flags (.generic base [t]) = kind >>= fun isArray ↦
      if isArray || m.isTuple (.generic base [t]) then pure [.object] else pure [] := by
  rw [← harray]
  rfl

theorem classify_generic (m : Module) (hbase : base.origin ∈ ClassRef.arrays)
    (hhash : t.unhashable? = none) : m.model.classify (.generic base [t]) = .ok .array :=
  classify_array (flags_generic (isArray_generic hbase hhash)) (isArray_generic hbase hhash)

/-- An array of elements that are not `None` has the node of its element, or the failure of it. -/
theorem outcome_compile_generic (m : Module) (hbase : base.origin ∈ ClassRef.arrays)
    (hhash : t.unhashable? = none) (hsome : t.isNoneValue = false) :
    (m.model.compile (.generic base [t])).outcome = (m.model.compile t).outcome.map arrayNode := by
  have helement : m.model.element? (.generic base [t]) = some t := by
    change Option.filter (fun element ↦ !element.isNoneValue) (some t) = some t
    rw [Option.filter_some, hsome]
    rfl
  rw [outcome_compile_of_element (m.ends _) (m.ends t) rfl (m.classify_generic hbase hhash) helement]
  cases (m.model.compile t).outcome with
  | error failure => rfl
  | ok items => exact Constraint.applied_nil (hasTextType_of_get? rfl)

/-- An array of which the parameter has no hash cannot be told from other types. -/
theorem compile_generic_unhashable (m : Module) (base : GenericBase) {kind : String}
    (hkind : t.unhashable? = some kind) :
    (m.model.compile (.generic base [t])).outcome = .error (.unhashable kind) := by
  have harray : (generic base [t]).isArray = .error (.unhashable kind) := by
    unfold Annotation.isArray
    rw [strip_generic, unhashable?_generic, hkind]
  have hflags : m.model.flags (.generic base [t]) = .error (.unhashable kind) :=
    flags_generic harray
  refine outcome_compile_of_noCategory (m.depth_ne_zero _) rfl ?_
  rw [TypeModel.classify, hflags]
  rfl

/-! ## Arrays without an element -/

theorem answers_of_mem_arrays (m : Module) {ref : ClassRef} (href : ref ∈ ClassRef.arrays) :
    m.symbol? (.cls ref) = none ∧ m.flags (.cls ref) = .ok [.object] := by
  simp only [ClassRef.arrays, List.mem_cons, List.not_mem_nil, or_false] at href
  rcases href with rfl | rfl | rfl | rfl | rfl | rfl | rfl | rfl | rfl
  all_goals exact ⟨rfl, rfl⟩

/-- An array class or form without a parameter has an array node without elements. -/
theorem compile_bareBase (m : Module) (hbase : base.origin ∈ ClassRef.arrays) :
    (m.model.compile (bareBase base)).outcome = .ok [("type", .str "array")] := by
  have harray : (bareBase base).isArray = .ok true := by
    cases base with
    | cls ref => exact congrArg Except.ok (List.contains_iff_mem.mpr hbase)
    | form name => exact congrArg Except.ok (List.contains_iff_mem.mpr hbase)
  have hanswers : m.symbol? (bareBase base) = none ∧ m.flags (bareBase base) = .ok [.object] := by
    cases base with
    | cls ref => exact m.answers_of_mem_arrays hbase
    | form name =>
      have hflags : m.flags (.bare name) = (bareBase (.form name)).isArray >>= fun isArray ↦
        if isArray || m.isTuple (.bare name) then pure [.object] else pure [] := rfl
      rw [harray] at hflags
      exact ⟨rfl, hflags⟩
  refine outcome_compile_of_noElement (m.depth_ne_zero _) hanswers.1
    (classify_array hanswers.2 harray) ?_
  cases base <;> rfl

/-- A class takes `None` for its parameter as it is, and then has no element. -/
theorem compile_generic_none (m : Module) {ref : ClassRef} (href : ref ∈ ClassRef.arrays) :
    (m.model.compile (.generic (.cls ref) [noneValue])).outcome = .ok [("type", .str "array")] :=
  outcome_compile_of_noElement (m.depth_ne_zero _) rfl (m.classify_generic href rfl) rfl

/-! ## Arrays of arrays -/

/-- `None` has the schema of its type, and a text is no more a type than a reference that has not been
followed. -/
theorem matches_parameter (m : Module) (h : t.IsKept base) :
    Outcome.Matches (m.model.compile t).outcome (m.model.compile (t.parameter base)).outcome := by
  obtain ⟨-, hsame⟩ | ⟨rfl, hsame⟩ | ⟨text, rfl, hsame⟩ := h.cases
  · rw [hsame]
    exact .refl _
  · rw [hsame]
    exact .ok [("type", Json.str "null")]
  · rw [hsame]
    exact .error (.rejected .unsupported _ _)

theorem matches_arrayOf_nil (m : Module) (t : Annotation) :
    Outcome.Matches ((m.model.compile t).outcome.map arrayNode^[0])
      (m.model.compile (arrayOf [] t)).outcome := by
  rw [Function.iterate_zero, Except.map_id]
  exact .refl _

/-- An array in an array adds one node to what the inner array is compiled to. -/
theorem matches_arrayOf_hashable (m : Module) {bases : List GenericBase}
    (hbases : ∀ base ∈ bases, base.origin ∈ ClassRef.arrays)
    (hkept : ∀ last ∈ bases.getLast?, t.IsKept last) (hhash : t.unhashable? = none) :
    Outcome.Matches ((m.model.compile t).outcome.map arrayNode^[bases.length])
      (m.model.compile (arrayOf bases t)).outcome := by
  induction bases with
  | nil => exact m.matches_arrayOf_nil t
  | cons base bases ih =>
    obtain ⟨hbase, hbases⟩ := List.forall_mem_cons.mp hbases
    obtain ⟨houter, hinner⟩ := isKept_arrayOf hkept
    have hparameter : ((arrayOf bases t).parameter base).unhashable? = none := by
      rw [houter.unhashable?_parameter, unhashable?_arrayOf hinner, hhash]
    have hnode : (m.model.compile t).outcome.map arrayNode^[(base :: bases).length] =
        ((m.model.compile t).outcome.map arrayNode^[bases.length]).map arrayNode := by
      rw [List.length_cons, Function.iterate_succ']
      cases (m.model.compile t).outcome <;> rfl
    rw [arrayOf_cons, m.outcome_compile_generic hbase hparameter houter.isNoneValue_parameter, hnode]
    exact ((ih hbases hinner).trans (m.matches_parameter houter)).map arrayNode

/-- An array of elements that have no hash fails, however deep it is nested. -/
theorem compile_arrayOf_unhashable (m : Module) {bases : List GenericBase} {kind : String}
    (hne : bases ≠ []) (hkept : ∀ last ∈ bases.getLast?, t.IsKept last)
    (hkind : t.unhashable? = some kind) :
    (m.model.compile (arrayOf bases t)).outcome = .error (.unhashable kind) := by
  obtain ⟨base, bases, rfl⟩ := List.exists_cons_of_ne_nil hne
  obtain ⟨houter, hinner⟩ := isKept_arrayOf hkept
  rw [arrayOf_cons]
  refine m.compile_generic_unhashable base ?_
  rw [houter.unhashable?_parameter, unhashable?_arrayOf hinner, hkind]

/-- Arrays around a type compile to arrays around its node, or all fail in one class. -/
theorem matches_arrayOf (m : Module) {bases : List GenericBase}
    (hbases : ∀ base ∈ bases, base.origin ∈ ClassRef.arrays)
    (hkept : ∀ last ∈ bases.getLast?, t.IsKept last)
    (hhash : t.isHashable = false → ∃ kind, (m.model.compile t).outcome = .error (.unhashable kind)) :
    Outcome.Matches ((m.model.compile t).outcome.map arrayNode^[bases.length])
      (m.model.compile (arrayOf bases t)).outcome := by
  cases hkind : t.unhashable? with
  | none => exact m.matches_arrayOf_hashable hbases hkept hkind
  | some kind =>
    obtain ⟨kind', hfailure⟩ := hhash (congrArg Option.isNone hkind)
    by_cases hne : bases = []
    · rw [hne]
      exact m.matches_arrayOf_nil t
    · rw [hfailure, m.compile_arrayOf_unhashable hne hkept hkind]
      exact .error (.unhashable kind' kind)

/-- Arrays of arrays of elements that are kept are compiled to as many array nodes around the node of
the elements, and fail with a failure of the class of theirs. Elements without a hash have to fail
themselves for that reason. Only an array without a parameter has no `items`. -/
theorem compile_arrayOf (m : Module) {bases : List GenericBase} {t : Annotation}
    (hbases : ∀ base ∈ bases, base.origin ∈ ClassRef.arrays)
    (hkept : ∀ last ∈ bases.getLast?, t.IsKept last)
    (hhash : t.isHashable = false → ∃ kind, (m.model.compile t).outcome = .error (.unhashable kind)) :
    (∀ node, (m.model.compile t).outcome = .ok node →
        (m.model.compile (arrayOf bases t)).outcome = .ok (arrayNode^[bases.length] node)) ∧
      (∀ failure, (m.model.compile t).outcome = .error failure →
        ∃ failure', (m.model.compile (arrayOf bases t)).outcome = .error failure' ∧
          failure.SameClass failure') ∧
      (bases ≠ [] → ∀ node, (m.model.compile (arrayOf bases t)).outcome = .ok node →
        Dict.contains "items" node = true) ∧
      ∀ base : GenericBase, base.origin ∈ ClassRef.arrays →
        (m.model.compile (bareBase base)).outcome = .ok [("type", .str "array")] := by
  have hmatches := m.matches_arrayOf hbases hkept hhash
  refine ⟨fun node hnode ↦ ?_, fun failure hfailure ↦ ?_, fun hne node hnode ↦ ?_,
    fun base ↦ m.compile_bareBase⟩
  · rw [hnode] at hmatches
    exact hmatches.eq_ok_iff.mpr rfl
  · rw [hfailure] at hmatches
    exact hmatches.exists_error
  · obtain ⟨base, bases, rfl⟩ := List.exists_cons_of_ne_nil hne
    have hnode := hmatches.eq_ok_iff.mp hnode
    rw [List.length_cons, Function.iterate_succ'] at hnode
    cases houtcome : (m.model.compile t).outcome with
    | error failure =>
      rw [houtcome] at hnode
      cases hnode
    | ok items =>
      rw [houtcome] at hnode
      cases hnode
      rfl

end

attribute [local instance] Environment.plain

/-- Lists of sequences, the lists written with a form and the sequences with a class. -/
def listsOfSequences : List GenericBase :=
  [.form ⟨"List", .builtin "list"⟩, .cls (.abstract "Sequence")]

theorem compile_arrayOf_listsOfSequences :
    ((Module.model ⟨[], [], 1⟩).compile
        (arrayOf listsOfSequences (.cls (.builtin "str")))).outcome =
      .ok [("type", .str "array"), ("items", .obj [("type", .str "array"),
        ("items", .obj [("type", .str "string")])])] ∧
      ∃ failure, ((Module.model ⟨[], [], 1⟩).compile
          (arrayOf listsOfSequences (.cls (.builtin "dict")))).outcome = .error failure ∧
        (Failure.ofError (.unsupportedType .unsupported "dict")).SameClass failure := by
  have hbases : ∀ base ∈ listsOfSequences, base.origin ∈ ClassRef.arrays := by decide
  have hkept (ref : ClassRef) : ∀ last ∈ listsOfSequences.getLast?, (cls ref).IsKept last := by
    intro last hlast
    obtain rfl := Option.some.inj hlast
    rfl
  have htexts := (compile_arrayOf ⟨[], [], 1⟩ hbases (hkept (.builtin "str")) nofun).1
  have hdicts := (compile_arrayOf ⟨[], [], 1⟩ hbases (hkept (.builtin "dict")) nofun).2.1
  exact ⟨htexts _ rfl, hdicts _ rfl⟩

/-- `None` has a schema, and as a parameter of a form it is an element, but a list class loses it. A
number with a list as metadata has a schema as well, but no array of such numbers has one. -/
theorem compile_lost_elements :
    let m : Module := ⟨[], [], 1⟩
    let list : GenericBase := .cls (.builtin "list")
    let number := (cls (.builtin "int")).annotatedWith [.plain (.list [.int 1])]
    (m.model.compile noneValue).outcome = .ok [("type", .str "null")] ∧
      (m.model.compile (arrayOf [.form ⟨"List", .builtin "list"⟩] noneValue)).outcome =
        .ok [("type", .str "array"), ("items", .obj [("type", .str "null")])] ∧
      (m.model.compile (arrayOf [list] noneValue)).outcome = .ok [("type", .str "array")] ∧
      (m.model.compile number).outcome = .ok [("type", .str "number")] ∧
      (m.model.compile (arrayOf [list] number)).outcome = .error (.unhashable "list") :=
  ⟨rfl, rfl, rfl, rfl, rfl⟩

end Module

end Schematic
