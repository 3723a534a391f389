import Schematic.Class.Model
import Schematic.Proofs.Descent

/-!
# Arrays and structs among annotations

An array is a parameterized class, and its elements are a part of the annotation that is not
as high. A struct is a class with members: a declared one, or the base class of models, which
has no members of its own. What a declared class is and which members it has depends on its
number alone, not on the name by which an annotation refers to it.
-/

namespace Schematic

theorem Outcome.mapError_eq_ok_iff {α : Type} {result : Except Failure α}
    {report : Failure → Failure} {value : α} :
    result.mapError report = .ok value ↔ result = .ok value := by
  cases result <;> simp [Except.mapError]

namespace TypeModel

variable {τ ι : Type}

/-- Arrays and structs are told apart last, by their shape. -/
theorem classifyShape_of_classify {model : TypeModel τ ι} {type : τ} {category : Category}
    (h : model.classify type = .ok category) (hshape : category ∈ shapeCategories) :
    ∃ flags, model.flags type = .ok flags ∧ model.classifyShape flags type = .ok category := by
  obtain ⟨flags, hflags, hclassified⟩ := classified_of_classify h
  refine ⟨flags, hflags, ?_⟩
  cases hclassified with
  | @flag flag hmem =>
    have hother : ∀ entry ∈ flagCategories, entry.2 ∉ shapeCategories := by decide
    exact absurd hshape (hother _ hmem)
  | enum hcategory => exact absurd hshape (hcategory ▸ by decide)
  | union hcategory => exact absurd hshape (hcategory ▸ by decide)
  | shape hshape => exact hshape

/-- Only what has the form of an array is classified as one. -/
theorem isArray_of_classify {model : TypeModel τ ι} {type : τ}
    (h : model.classify type = .ok .array) : model.isArray type = .ok true := by
  obtain ⟨flags, -, h⟩ := classifyShape_of_classify h (by decide)
  obtain ⟨isArray, hisArray, h⟩ := Outcome.bind_eq_ok_iff.mp h
  cases isArray with
  | true => exact hisArray
  | false =>
    simp only [Bool.false_eq_true, if_false] at h
    split_ifs at h <;> cases h

/-- A struct is flagged as an object, and is neither an array nor a tuple. -/
theorem object_of_classify {model : TypeModel τ ι} {type : τ}
    (h : model.classify type = .ok .object) :
    model.isArray type = .ok false ∧ model.isTuple type = false ∧
      ∃ flags, model.flags type = .ok flags ∧ flags.contains .object = true := by
  obtain ⟨flags, hflags, h⟩ := classifyShape_of_classify h (by decide)
  obtain ⟨isArray, hisArray, h⟩ := Outcome.bind_eq_ok_iff.mp h
  cases isArray with
  | true => cases h
  | false =>
    simp only [Bool.false_eq_true, if_false] at h
    split_ifs at h with htuple hobject hintersection
    · cases h
    · exact ⟨hisArray, Bool.eq_false_iff.mpr htuple, flags, hflags, hobject⟩
    · cases h
    · cases h

/-- The category of a type depends on the answers to four questions. -/
theorem classify_congr {model : TypeModel τ ι} {a b : τ} (hflags : model.flags a = model.flags b)
    (hunion : model.unionMembers a = model.unionMembers b)
    (harray : model.isArray a = model.isArray b) (htuple : model.isTuple a = model.isTuple b) :
    model.classify a = model.classify b := by
  unfold classify enumValues classifyShape
  rw [hflags, hunion, harray, htuple]

end TypeModel

namespace Annotation

/-! ## Heights -/

theorem height_pos (t : Annotation) : 0 < t.height := by
  unfold height
  split <;> omega

theorem height_strip_le (t : Annotation) : t.strip.height ≤ t.height := by
  fun_induction strip t <;> simp only [height, le_refl] <;> omega

/-- A part is no higher than the highest one. -/
theorem height_le_of_mem {args : List Annotation} {t : Annotation} (h : t ∈ args) :
    t.height ≤ heightOfAll args := by
  induction args with
  | nil => cases h
  | cons first rest ih =>
    rw [heightOfAll]
    rcases List.mem_cons.mp h with rfl | hrest
    · exact Nat.le_max_left _ _
    · exact (ih hrest).trans (Nat.le_max_right _ _)

theorem identical_cls (a b : ClassRef) : identical (cls a) (cls b) = a.same b := by
  simp [identical, isHashable, unhashable?, same]

theorem strip_strip (t : Annotation) : t.strip.strip = t.strip := by
  fun_induction strip t <;> simp_all [strip]

end Annotation

namespace Module

variable [Environment] {m : Module}

/-! ## Arrays -/

/-- An array with elements is a parameterized class, in its wrappers. -/
theorem exists_generic_of_elementStep {type element : Annotation}
    (h : m.model.ElementStep type element) :
    ∃ base args, type.strip = .generic base args ∧ element ∈ args := by
  have harray : type.isArray = .ok true := TypeModel.isArray_of_classify h.1
  have hform : type.strip.isArrayForm = true := by
    unfold Annotation.isArray at harray
    split at harray
    · exact Except.ok.inj harray
    · cases harray
  have hfirst : element ∈ type.strip.args := by
    have helement : type.strip.args.head?.filter (!·.isNoneValue) = some element := h.2
    exact List.mem_of_mem_head? (Option.filter_eq_some_iff.mp helement).1
  cases hshape : type.strip with
  | generic base args =>
    rw [hshape] at hfirst
    exact ⟨base, args, rfl, hfirst⟩
  | cls | bare =>
    rw [hshape] at hfirst
    exact absurd hfirst List.not_mem_nil
  | _ =>
    rw [hshape] at hform
    cases hform

/-- The elements of an array are not as high as the array. -/
theorem height_lt_of_elementStep {type element : Annotation}
    (h : m.model.ElementStep type element) : element.height < type.height := by
  obtain ⟨base, args, hshape, hmem⟩ := exists_generic_of_elementStep h
  have hstrip : type.strip.height ≤ type.height := type.height_strip_le
  rw [hshape, Annotation.height] at hstrip
  have hargs : element.height ≤ Annotation.heightOfAll args := Annotation.height_le_of_mem hmem
  omega

/-! ## Structs -/

omit [Environment] in
theorem object_not_in_valueFlags (v : Value) : v.flags.contains .object = false := by
  unfold Value.flags
  split <;> rfl

/-- Flags are read off the annotation below its wrappers. -/
theorem flags_of_strip {a b : Annotation} (h : a.strip = b.strip) : m.flags a = m.flags b := by
  unfold flags
  rw [h]

omit [Environment] in
theorem unionMembers_of_strip {a b : Annotation} (h : a.strip = b.strip) :
    m.unionMembers a = m.unionMembers b := by
  unfold unionMembers
  rw [h]

omit [Environment] in
theorem isArray_of_strip {a b : Annotation} (h : a.strip = b.strip) : a.isArray = b.isArray := by
  unfold Annotation.isArray
  rw [h]

theorem isTuple_of_strip {a b : Annotation} (h : a.strip = b.strip) :
    m.isTuple a = m.isTuple b := by
  unfold isTuple
  rw [h]

/-- An annotation that is flagged as an object is a class, unless it is an array or a tuple. -/
theorem exists_cls_of_flags {type : Annotation} {flags : Flags} (hflags : m.flags type = .ok flags)
    (hobject : flags.contains .object = true) (harray : type.isArray = .ok false)
    (htuple : m.isTuple type = false) :
    ∃ ref, type.strip = .cls ref ∧ m.classFlags ref = flags := by
  rw [← isArray_of_strip type.strip_strip] at harray
  rw [← isTuple_of_strip type.strip_strip] at htuple
  unfold Module.flags at hflags
  split at hflags
  · rename_i ref hshape
    exact ⟨ref, hshape, Except.ok.inj hflags⟩
  · cases hflags
    cases hobject
  · cases hflags
    rw [object_not_in_valueFlags] at hobject
    cases hobject
  · cases hflags
    rw [object_not_in_valueFlags] at hobject
    cases hobject
  · cases hflags
    cases hobject
  · cases hflags
    cases hobject
  · rw [harray, htuple] at hflags
    cases hflags
    cases hobject

/-- A struct is a class with members, in its wrappers. -/
theorem exists_cls_of_object {type : Annotation} (h : m.model.classify type = .ok .object) :
    ∃ ref, type.strip = .cls ref ∧ m.isStruct ref = true := by
  obtain ⟨harray, htuple, flags, hflags, hobject⟩ := TypeModel.object_of_classify h
  change type.isArray = _ at harray
  change m.isTuple type = _ at htuple
  obtain ⟨ref, hshape, rfl⟩ := exists_cls_of_flags hflags hobject harray htuple
  refine ⟨ref, hshape, ?_⟩
  have hplain : ClassRef.arrays.contains ref = false := by
    simpa [hshape, Annotation.isArray, Annotation.unhashable?, Annotation.isArrayForm,
      Annotation.origin?] using harray
  have hrecord : m.isTupleClass ref = false := by simpa [isTuple, hshape] using htuple
  unfold classFlags at hobject
  split at hobject
  case h_7 =>
    split at hobject
    · cases hobject
    · rw [structFlags, hplain, hrecord, Bool.false_or, Bool.false_or] at hobject
      by_contra hstruct
      rw [if_neg hstruct] at hobject
      cases hobject
  all_goals cases hobject

omit [Environment] in
/-- What is not declared here derives neither from declared classes nor from that of models. -/
theorem class?_of_mem_bases {ref base : ClassRef} (h : base ∈ ref.bases) :
    m.class? base = none ∧ base ≠ .model := by
  have henumeration (name : String) : ∀ base ∈ ClassRef.enumerationBases name,
      m.class? base = none ∧ base ≠ .model := by
    unfold ClassRef.enumerationBases
    split <;> simp [class?, ClassRef.model, ClassRef.enumeration, ClassRef.flagEnumeration]
  have hobject : m.class? .object = none ∧ ClassRef.object ≠ .model := by
    simp [class?, ClassRef.model, ClassRef.object]
  unfold ClassRef.bases at h
  split at h
  · cases h
  · rcases List.mem_pair.mp h with rfl | rfl
    · simp [class?, ClassRef.model]
    · exact hobject
  · rcases List.mem_append.mp h with hnamed | hlast
    · exact henumeration _ base hnamed
    · rw [List.mem_singleton.mp hlast]
      exact hobject
  · rcases List.mem_append.mp h with hnamed | hlast
    · obtain ⟨name, -, rfl⟩ := List.mem_map.mp hnamed
      simp [class?, ClassRef.model]
    · rw [List.mem_singleton.mp hlast]
      exact hobject
  · rw [List.mem_singleton.mp h]
    exact hobject

omit [Environment] in
theorem model_same_iff {ref : ClassRef} : ClassRef.model.same ref = true ↔ ref = .model := by
  unfold ClassRef.same
  split
  · rename_i hmodel
    cases hmodel
  · rw [decide_eq_true_iff, eq_comm]

omit [Environment] in
/-- A class with members is declared, or is the base class of models. -/
theorem isStruct_cases {ref : ClassRef} (h : m.isStruct ref = true) :
    ref = .model ∨ ∃ c, m.class? ref = some c := by
  cases hclass : m.class? ref with
  | some c => exact .inr ⟨c, rfl⟩
  | none =>
    left
    have hlinear : m.linear ref = ref :: ref.bases := by rw [linear, hclass]
    have hundeclared : ∀ base ∈ m.linear ref, m.class? base = none := by
      rw [hlinear]
      exact List.forall_mem_cons.mpr ⟨hclass, fun base hbase ↦ (class?_of_mem_bases hbase).1⟩
    have hdict : m.isTypedDict ref = false := by rw [isTypedDict, hclass]; rfl
    have hdata : m.isDataclass ref = false := by
      rw [isDataclass, dataFields?, List.findSome?_eq_none_iff.mpr fun base hbase ↦ by
        rw [hundeclared base hbase]; rfl]
      rfl
    have hplain : m.annotations ref = [] := by rw [annotations, hclass]
    rw [isStruct, hdict, hdata, hplain, Bool.false_or, Bool.false_or, List.isEmpty_nil, Bool.not_true,
      Bool.or_false, isModel, derives, hlinear, List.any_eq_true] at h
    obtain ⟨base, hbase, hsame⟩ := h
    obtain rfl := model_same_iff.mp hsame
    rcases List.mem_cons.mp hbase with hself | hbelow
    · exact hself.symm
    · exact absurd rfl (class?_of_mem_bases (m := m) hbelow).2

omit [Environment] in
/-- A class with an entry is a declared one. -/
theorem exists_number_of_class? {ref : ClassRef} {c : Class} (h : m.class? ref = some c) :
    ∃ number qualname family, ref = .declared number qualname family ∧
      m.classes[number]? = some c := by
  cases ref with
  | declared number qualname family => exact ⟨number, qualname, family, rfl, h⟩
  | _ => cases h

/-! ## Classes and their numbers -/

theorem classify_of_strip {a b : Annotation} (h : a.strip = b.strip) :
    m.model.classify a = m.model.classify b :=
  TypeModel.classify_congr (flags_of_strip h) (unionMembers_of_strip h) (isArray_of_strip h)
    (isTuple_of_strip h)

section

variable {number : Nat} {c : Class} (hclass : m.classes[number]? = some c) (qualname : String)
  (family : Family)

include hclass

omit [Environment] in
/-- The name and the family of a reference do not matter to the order of its bases. -/
theorem linear_declared : m.linear (.declared number qualname family) = c.linear := by
  simp only [linear, class?, hclass]

omit [Environment] in
theorem derives_declared (base : ClassRef) :
    m.derives (.declared number qualname family) base = c.linear.any base.same := by
  rw [derives, linear_declared hclass]

omit [Environment] in
theorem dataFields?_declared : m.dataFields? (.declared number qualname family) =
    c.linear.findSome? fun base ↦ (m.class? base).bind Class.dataFields := by
  rw [dataFields?, linear_declared hclass]

theorem hints_declared :
    m.hints (.declared number qualname family) = m.hintsAlong [] c.linear.reverse := by
  rw [hints, linear_declared hclass]

omit [Environment] in
theorem isStruct_declared : m.isStruct (.declared number qualname family) =
    m.isStruct (.declared number "" .ordinary) := by
  have hdict : m.isTypedDict (.declared number qualname family) =
      m.isTypedDict (.declared number "" .ordinary) := rfl
  have hannotations : m.annotations (.declared number qualname family) =
      m.annotations (.declared number "" .ordinary) := rfl
  rw [isStruct, isStruct, hdict, hannotations]
  simp only [isDataclass, dataFields?_declared hclass, isModel, derives_declared hclass]

theorem isTupleClass_declared : m.isTupleClass (.declared number qualname family) =
    m.isTupleClass (.declared number "" .ordinary) := by
  simp only [isTupleClass, hasAttribute, derives_declared hclass, linear_declared hclass,
    ClassRef.tuple, reduceCtorEq]

/-- The category of a class does not depend on how it is referred to. -/
theorem classify_declared : m.model.classify (.cls (.declared number qualname family)) =
    m.model.classify (.cls (.declared number "" .ordinary)) := by
  refine TypeModel.classify_congr ?_ ?_ ?_ ?_
  · have hflags (qualname : String) (family : Family) :
        m.classFlags (.declared number qualname family) =
          if c.linear.any ClassRef.enumeration.same then [.enumLike, .union]
          else m.structFlags (.declared number qualname family) := by
      rw [← derives_declared hclass qualname family]
      rfl
    have hstruct : m.structFlags (.declared number qualname family) =
        m.structFlags (.declared number "" .ordinary) := by
      rw [structFlags, structFlags, isTupleClass_declared hclass, isStruct_declared hclass]
      rfl
    change Except.ok (m.classFlags _) = Except.ok (m.classFlags _)
    rw [hflags, hflags, hstruct]
  · change (m.listedMembers _).map Annotation.value = (m.listedMembers _).map Annotation.value
    rw [listedMembers, listedMembers, derives_declared hclass, derives_declared hclass]
    rfl
  · rfl
  · exact isTupleClass_declared hclass qualname family

theorem attributeDocs_declared : m.attributeDocs (.declared number qualname family) =
    m.attributeDocs (.declared number "" .ordinary) := by
  rw [attributeDocs, attributeDocs, linear_declared hclass, linear_declared hclass]

theorem attributeMembers_declared (hints : Dict Annotation) (docs : Dict String) :
    m.attributeMembers (.declared number qualname family) hints docs =
      m.attributeMembers (.declared number "" .ordinary) hints docs := by
  simp only [attributeMembers, hasAttribute, linear_declared hclass]

/-- The members of a class do not depend on how it is referred to, if there are any: only a failure
mentions the name. -/
theorem classMembers_declared {members : List (Member Annotation)}
    (h : (m.classMembers (.declared number qualname family)).outcome = .ok members) :
    (m.classMembers (.declared number "" .ordinary)).outcome = .ok members := by
  have hplain (qualname : String) (family : Family) :
      ¬ ClassRef.mappings.contains (.declared number qualname family) = true := by
    simp [ClassRef.mappings]
  have hmodel : m.isModel (.declared number qualname family) =
      m.isModel (.declared number "" .ordinary) := by
    rw [isModel, isModel, derives_declared hclass, derives_declared hclass]
  have hdocs := attributeDocs_declared hclass qualname family
  unfold classMembers at h ⊢
  rw [if_neg (hplain _ _)] at h ⊢
  rw [hmodel, hdocs] at h
  by_cases his : m.isModel (.declared number "" .ordinary) = true
  · rw [if_pos his] at h ⊢
    exact h
  · rw [if_neg his] at h ⊢
    obtain ⟨hints, hhints, h⟩ := Logged.bind_eq_ok_iff.mp h
    refine Logged.bind_eq_ok_iff.mpr ⟨hints, ?_, ?_⟩
    · rw [Logged.outcome_lift, Outcome.mapError_eq_ok_iff, hints_declared hclass] at hhints ⊢
      exact hhints
    · simp only [dataFields?_declared hclass, attributeMembers_declared hclass qualname family] at h ⊢
      exact h

end

/-! ## Members -/

/-- A struct with a member is a declared class, whatever reference names it. -/
theorem exists_number_of_memberStep {type part : Annotation} (h : m.model.MemberStep type part) :
    ∃ number qualname family c, type.strip = .cls (.declared number qualname family) ∧
      m.classes[number]? = some c ∧ part ∈ m.memberTypes (.declared number "" .ordinary) := by
  obtain ⟨hobject, members, hmembers, member, hmember, -, rfl⟩ := h
  obtain ⟨ref, hshape, hstruct⟩ := exists_cls_of_object hobject
  replace hmembers : (m.classMembers ref).outcome = .ok members := by
    change (m.members type).outcome = _ at hmembers
    rw [Module.members, hshape] at hmembers
    exact hmembers
  rcases isStruct_cases hstruct with rfl | ⟨c, hclass⟩
  · -- The base class of models has no members of its own.
    have hnone : (m.classMembers .model).outcome = .ok [] := rfl
    obtain rfl : [] = members := Except.ok.inj (hnone.symm.trans hmembers)
    cases hmember
  · obtain ⟨number, qualname, family, rfl, hnumber⟩ := exists_number_of_class? hclass
    refine ⟨number, qualname, family, c, hshape, hnumber, ?_⟩
    rw [memberTypes, classMembers_declared hnumber qualname family hmembers]
    exact List.mem_map_of_mem hmember

end Module

end Schematic
