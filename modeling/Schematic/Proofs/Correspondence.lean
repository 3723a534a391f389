import Schematic.Proofs.Families
import Schematic.Proofs.Simulation
import Schematic.Proofs.Wrappers

/-!
# Modules whose classes correspond

Two modules may declare one class in different ways and still mean the same by it. If every
class has the same category, the same documentation and corresponding members in both, then every
annotation has the same schema or the same error in both. Annotations need to agree only up to
wrappers without documentation, and up to the families of the classes in them.
-/

namespace Schematic

namespace Annotation

/-! ## Akin annotations -/

/-- Annotations that are the same but for wrappers and families, with the same documentation in the
metadata around them. -/
structure Akin (a b : Annotation) : Prop where
  strip : b.strip.withoutFamilies = a.strip.withoutFamilies
  outerDoc? : b.outerDoc? = a.outerDoc?

namespace Akin

variable {a b c : Annotation}

theorem refl (t : Annotation) : Akin t t := ⟨rfl, rfl⟩

theorem symm (h : Akin a b) : Akin b a := ⟨h.strip.symm, h.outerDoc?.symm⟩

theorem trans (hab : Akin a b) (hbc : Akin b c) : Akin a c :=
  ⟨hbc.strip.trans hab.strip, hbc.outerDoc?.trans hab.outerDoc?⟩

/-- Wrappers may differ where they document the same. -/
theorem of_strip (hstrip : b.strip = a.strip) (hdoc : b.outerDoc? = a.outerDoc?) : Akin a b :=
  ⟨by rw [hstrip], hdoc⟩

theorem of_withoutFamilies (h : b.withoutFamilies = a.withoutFamilies) : Akin a b where
  strip := by rw [← strip_withoutFamilies, ← strip_withoutFamilies, h]
  outerDoc? := by rw [← outerDoc?_withoutFamilies b, ← outerDoc?_withoutFamilies a, h]

theorem of_map_withoutFamilies {as bs : List Annotation}
    (h : bs.map withoutFamilies = as.map withoutFamilies) : List.Forall₂ Akin as bs := by
  induction as generalizing bs with
  | nil =>
    obtain rfl := List.map_eq_nil_iff.mp h
    exact .nil
  | cons first rest ih =>
    cases bs with
    | nil => cases h
    | cons other others =>
      obtain ⟨hfirst, hrest⟩ := List.cons.inj h
      exact .cons (of_withoutFamilies hfirst) (ih hrest)

end Akin

/-- An answer that depends on what is in the wrappers alone, and shows no family. -/
theorem Akin.eq {α : Type} {answer : Annotation → α} {a b : Annotation} (h : Akin a b)
    (hstrip : ∀ {t u : Annotation}, u.strip = t.strip → answer u = answer t)
    (hfamilies : ∀ t, answer t.withoutFamilies = answer t) : answer b = answer a :=
  calc
    answer b = answer b.strip := hstrip b.strip_strip.symm
    _ = answer a.strip := by rw [← hfamilies b.strip, h.strip, hfamilies a.strip]
    _ = answer a := hstrip a.strip_strip

theorem Akin.element? {a b : Annotation} (h : Akin a b) : Option.Rel Akin a.element? b.element? := by
  have hmap : b.element?.map withoutFamilies = a.element?.map withoutFamilies := by
    have hstrip (t : Annotation) : t.element? = t.strip.element? := by
      unfold Annotation.element?
      rw [strip_strip]
    rw [hstrip b, hstrip a, ← element?_withoutFamilies, ← element?_withoutFamilies, h.strip]
  cases ha : a.element? with
  | none =>
    rw [ha] at hmap
    rw [Option.map_eq_none_iff.mp hmap]
    exact .none
  | some element =>
    rw [ha] at hmap
    obtain ⟨element', hb, helement⟩ := Option.map_eq_some_iff.mp hmap
    rw [hb]
    exact .some (.of_withoutFamilies helement)

theorem exists_cls_of_withoutFamilies {t : Annotation} {ref : ClassRef} (h : t.withoutFamilies = cls ref) :
    ∃ ref', t = cls ref' ∧ ref'.withoutFamily = ref := by
  cases t <;> simp_all [withoutFamilies]

end Annotation

namespace Module

variable [Environment] {m m' : Module} {ref : ClassRef} {a b t : Annotation}

/-! ## A class under different families -/

omit [Environment] in
theorem class?_withoutFamily (m : Module) (ref : ClassRef) :
    m.class? ref.withoutFamily = m.class? ref := by
  cases ref <;> rfl

omit [Environment] in
/-- The order of the bases is the same, each taken without its family. -/
theorem map_linear_withoutFamily (m : Module) (ref : ClassRef) :
    (m.linear ref.withoutFamily).map ClassRef.withoutFamily =
      (m.linear ref).map ClassRef.withoutFamily := by
  unfold linear
  rw [class?_withoutFamily]
  cases m.class? ref with
  | some c => rfl
  | none => cases ref <;> rfl

omit [Environment] in
/-- What is asked about a line of classes one by one, no family showing in the answers. -/
theorem map_linear_eq {β : Type} (answer : ClassRef → β)
    (h : ∀ ref : ClassRef, answer ref.withoutFamily = answer ref) (m : Module) (ref : ClassRef) :
    (m.linear ref.withoutFamily).map answer = (m.linear ref).map answer := by
  have hanswer : answer = answer ∘ ClassRef.withoutFamily := funext fun ref ↦ (h ref).symm
  rw [hanswer, ← List.map_map, ← List.map_map, map_linear_withoutFamily]

omit [Environment] in
theorem derives_withoutFamily (m : Module) (ref base : ClassRef) :
    m.derives ref.withoutFamily base = m.derives ref base := by
  have hsame (ref : ClassRef) : base.same ref.withoutFamily = base.same ref := by
    cases base <;> cases ref <;> rfl
  have hline := congrArg (List.any · id) (map_linear_eq _ hsame m ref)
  unfold derives
  simpa only [List.any_map, Function.id_comp] using hline

omit [Environment] in
theorem dataFields?_withoutFamily (m : Module) (ref : ClassRef) :
    m.dataFields? ref.withoutFamily = m.dataFields? ref := by
  have hline := congrArg (List.findSome? id) (map_linear_eq
    (fun ref ↦ (m.class? ref).bind Class.dataFields) (fun ref ↦ by rw [class?_withoutFamily]) m ref)
  unfold dataFields?
  simpa only [List.findSome?_map, Function.id_comp] using hline

theorem hasAttribute_withoutFamily (m : Module) (ref : ClassRef) (name : String) :
    m.hasAttribute ref.withoutFamily name = m.hasAttribute ref name := by
  have hown (ref : ClassRef) : m.ownAttributes ref.withoutFamily = m.ownAttributes ref := by
    unfold ownAttributes
    rw [class?_withoutFamily]
    cases ref <;> rfl
  have hline := congrArg (List.any · id) (map_linear_eq
    (fun ref ↦ (m.ownAttributes ref).contains name) (fun ref ↦ by rw [hown]) m ref)
  unfold hasAttribute inheritsAttribute
  simpa only [List.any_map, Function.id_comp] using congrArg (_ || ·) hline

omit [Environment] in
theorem isTypedDict_withoutFamily (m : Module) (ref : ClassRef) :
    m.isTypedDict ref.withoutFamily = m.isTypedDict ref := by
  unfold isTypedDict
  rw [class?_withoutFamily]

omit [Environment] in
theorem annotations_withoutFamily (m : Module) (ref : ClassRef) :
    m.annotations ref.withoutFamily = m.annotations ref := by
  unfold annotations
  rw [class?_withoutFamily]

theorem reading_withoutFamily (m : Module) (ref : ClassRef) :
    m.reading ref.withoutFamily = m.reading ref := by
  cases ref <;> rfl

/-- Hints are laid over each other by what the classes of the line write, and by what they see. -/
theorem hintsAlong_map_withoutFamily (m : Module) (hints : Dict Annotation) (line : List ClassRef) :
    m.hintsAlong hints (line.map ClassRef.withoutFamily) = m.hintsAlong hints line := by
  induction line generalizing hints with
  | nil => rfl
  | cons ref rest ih =>
    simp only [List.map_cons, hintsAlong, reading_withoutFamily, annotations_withoutFamily, ih]

theorem hints_withoutFamily (m : Module) (ref : ClassRef) :
    m.hints ref.withoutFamily = m.hints ref := by
  unfold hints
  rw [← hintsAlong_map_withoutFamily, List.map_reverse, map_linear_withoutFamily, ← List.map_reverse,
    hintsAlong_map_withoutFamily]

theorem attributeDocs_withoutFamily (m : Module) (ref : ClassRef) :
    m.attributeDocs ref.withoutFamily = m.attributeDocs ref := by
  have hown (ref : ClassRef) : m.ownAttributeDocs ref.withoutFamily = m.ownAttributeDocs ref := by
    unfold ownAttributeDocs
    rw [class?_withoutFamily]
    cases m.class? ref with
    | some c => rfl
    | none => cases ref <;> rfl
  unfold attributeDocs
  rw [List.map_reverse, List.map_reverse, map_linear_eq _ hown]

omit [Environment] in
theorem isStruct_withoutFamily (m : Module) (ref : ClassRef) :
    m.isStruct ref.withoutFamily = m.isStruct ref := by
  unfold isStruct isDataclass isModel
  rw [isTypedDict_withoutFamily, dataFields?_withoutFamily, derives_withoutFamily,
    annotations_withoutFamily]

theorem isTupleClass_withoutFamily (m : Module) (ref : ClassRef) :
    m.isTupleClass ref.withoutFamily = m.isTupleClass ref := by
  simp only [isTupleClass, ClassRef.withoutFamily_eq_tuple, derives_withoutFamily,
    hasAttribute_withoutFamily]

omit [Environment] in
theorem listedMembers_withoutFamily (m : Module) (ref : ClassRef) :
    m.listedMembers ref.withoutFamily = m.listedMembers ref := by
  unfold listedMembers enumerators
  rw [derives_withoutFamily, class?_withoutFamily]

theorem classFlags_withoutFamily (m : Module) (ref : ClassRef) :
    m.classFlags ref.withoutFamily = m.classFlags ref := by
  have henumeration : m.isEnumeration ref.withoutFamily = m.isEnumeration ref :=
    m.derives_withoutFamily ref _
  have hstruct : m.structFlags ref.withoutFamily = m.structFlags ref := by
    simp only [structFlags, ClassRef.contains_arrays_withoutFamily, isTupleClass_withoutFamily,
      isStruct_withoutFamily]
  cases ref with
  | declared number qualname family =>
    let ref : ClassRef := .declared number qualname family
    change (if m.isEnumeration ref.withoutFamily then _ else m.structFlags ref.withoutFamily) = _
    rw [henumeration, hstruct]
    rfl
  | _ => rfl

theorem classSymbol?_withoutFamily (m : Module) (ref : ClassRef) :
    m.classSymbol? (.cls ref.withoutFamily) = m.classSymbol? (.cls ref) := by
  have hdocumented : m.isDocumented ref.withoutFamily = m.isDocumented ref := by
    have hundefined : ref.withoutFamily = .undefined ↔ ref = .undefined :=
      ClassRef.withoutFamily_eq_iff (by simp)
    simp only [isDocumented, isEnumeration, isStruct_withoutFamily, derives_withoutFamily, ne_eq,
      hundefined]
  have hdoc : m.classDoc? ref.withoutFamily = m.classDoc? ref := by
    unfold classDoc? isDataclass
    rw [ClassRef.libraryDoc?_withoutFamily, class?_withoutFamily, dataFields?_withoutFamily]
  simp only [classSymbol?, Annotation.strip, hdocumented, hdoc, ClassRef.qualname_withoutFamily]

theorem classMembers_withoutFamily (m : Module) (ref : ClassRef) :
    m.classMembers ref.withoutFamily = m.classMembers ref := by
  have hmappings : ClassRef.mappings.contains ref.withoutFamily = ClassRef.mappings.contains ref := by
    cases ref <;> rfl
  have hunresolved : unresolved ref.withoutFamily = unresolved ref := by
    funext failure
    unfold unresolved unresolved.report
    rw [ClassRef.qualname_withoutFamily]
  have hattributes (hints : Dict Annotation) (docs : Dict String) :
      m.attributeMembers ref.withoutFamily hints docs = m.attributeMembers ref hints docs := by
    simp only [attributeMembers, hasAttribute_withoutFamily]
  unfold classMembers isModel optionalKeys
  simp only [hmappings, derives_withoutFamily, attributeDocs_withoutFamily, class?_withoutFamily,
    hints_withoutFamily, hunresolved, isTypedDict_withoutFamily, dataFields?_withoutFamily, hattributes]

/-! ## Akin annotations under one module -/

theorem isTuple_withoutFamilies (m : Module) (t : Annotation) :
    m.isTuple t.withoutFamilies = m.isTuple t := by
  unfold isTuple
  rw [t.strip_withoutFamilies]
  cases t.strip with
  | cls ref => exact m.isTupleClass_withoutFamily ref
  | generic base args =>
    cases base with
    | cls ref => exact decide_eq_decide.mpr ref.withoutFamily_eq_tuple
    | form name => rfl
  | _ => rfl

/-- The flags of an annotation do not depend on families. -/
theorem flags_withoutFamilies (m : Module) (t : Annotation) : m.flags t.withoutFamilies = m.flags t := by
  -- Whatever is no class, value, literal or union has flags only as an array or a tuple.
  have hshape (t : Annotation) :
      (do if (← t.withoutFamilies.isArray) || m.isTuple t.withoutFamilies then pure [Flag.object]
          else pure [] : Except Failure Flags) =
        (do if (← t.isArray) || m.isTuple t then pure [Flag.object] else pure []) := by
    rw [t.isArray_withoutFamilies, isTuple_withoutFamilies]
  unfold flags
  rw [t.strip_withoutFamilies]
  cases t.strip with
  | cls ref => exact congrArg Except.ok (m.classFlags_withoutFamily ref)
  | generic base args => exact hshape (.generic base args)
  | annotated inner metadata => exact hshape (.annotated inner metadata)
  | qualified qualifier inner => exact hshape (.qualified qualifier inner)
  | synonym number name inner => exact hshape (.synonym number name inner)
  | newType number name inner => exact hshape (.newType number name inner)
  | _ => rfl

omit [Environment] in
open Annotation in
/-- The members of a union lose their families with it. -/
theorem unionMembers_withoutFamilies (m : Module) (t : Annotation) :
    m.unionMembers t.withoutFamilies = (m.unionMembers t).map Annotation.withoutFamilies := by
  unfold unionMembers
  rw [t.strip_withoutFamilies]
  cases t.strip with
  | literal values => simp [withoutFamilies, withoutFamilies_literalOfValue]
  | union style members =>
    simp only [withoutFamilies, withoutFamiliesAll_eq_map, List.flatMap_map, List.map_flatMap,
      flattened_withoutFamilies]
  | cls ref =>
    simp [withoutFamilies, listedMembers_withoutFamily]
  | _ => rfl

/-- A struct has the same members under both references. -/
theorem members_withoutFamilies (m : Module) (t : Annotation) :
    m.members t.withoutFamilies = m.members t := by
  unfold members
  rw [t.strip_withoutFamilies]
  cases t.strip with
  | cls ref => exact m.classMembers_withoutFamily ref
  | _ => rfl

theorem classSymbol?_withoutFamilies (m : Module) (t : Annotation) :
    m.classSymbol? t.withoutFamilies = m.classSymbol? t := by
  unfold classSymbol?
  rw [t.strip_withoutFamilies]
  cases t.strip with
  | cls ref => exact m.classSymbol?_withoutFamily ref
  | _ => rfl

/-- The documentation of a class shines through every wrapper. -/
theorem classSymbol?_of_strip {t u : Annotation} (h : u.strip = t.strip) :
    m.classSymbol? u = m.classSymbol? t := by
  unfold classSymbol?
  rw [h]

theorem members_of_strip {t u : Annotation} (h : u.strip = t.strip) : m.members u = m.members t := by
  unfold members
  rw [h]

omit [Environment] in
/-- Akin unions have akin members, one by one. -/
theorem forall₂_unionMembers (m : Module) (h : Annotation.Akin a b) :
    List.Forall₂ Annotation.Akin (m.unionMembers a) (m.unionMembers b) := by
  refine Annotation.Akin.of_map_withoutFamilies ?_
  rw [← unionMembers_of_strip b.strip_strip, ← unionMembers_of_strip a.strip_strip,
    ← unionMembers_withoutFamilies, ← unionMembers_withoutFamilies, h.strip]

/-! ## Classes that correspond -/

/-- A class is the same to a schema in two modules: its category, its documentation and its members,
which may differ in their types up to wrappers and families. -/
structure SameClass (m m' : Module) (ref : ClassRef) : Prop where
  classFlags : m'.classFlags ref = m.classFlags ref
  isTupleClass : m'.isTupleClass ref = m.isTupleClass ref
  listedMembers : m'.listedMembers ref = m.listedMembers ref
  classSymbol? : m'.classSymbol? (.cls ref) = m.classSymbol? (.cls ref)
  classMembers : Outcome.Related (List.Forall₂ (Member.Related Annotation.Akin))
    (m.classMembers ref).outcome (m'.classMembers ref).outcome

/-- Two modules with the same classes but for the one of the given number. -/
def AgreeElsewhere (m m' : Module) (number : Nat) : Prop :=
  ∀ ref, (∀ qualname family, ref ≠ .declared number qualname family) → SameClass m m' ref

section

variable (h : ∀ ref, SameClass m m' ref)

include h

theorem isTuple_of_sameClass (t : Annotation) : m'.isTuple t = m.isTuple t := by
  unfold isTuple
  split
  · exact (h _).isTupleClass
  · rfl
  · rfl
  · rfl

/-- Flags agree in two modules that agree about every class. -/
theorem flags_of_sameClass (t : Annotation) : m'.flags t = m.flags t := by
  unfold flags
  split
  · rw [(h _).classFlags]
  · rfl
  · rfl
  · rfl
  · rfl
  · rfl
  · rw [isTuple_of_sameClass h]

theorem unionMembers_of_sameClass (t : Annotation) : m'.unionMembers t = m.unionMembers t := by
  unfold unionMembers
  split
  · rfl
  · rfl
  · rw [(h _).listedMembers]
  · rfl

theorem classSymbol?_of_sameClass (t : Annotation) : m'.classSymbol? t = m.classSymbol? t := by
  cases hshape : t.strip with
  | cls ref =>
    have hclass (m : Module) : m.classSymbol? t = m.classSymbol? (.cls ref) :=
      classSymbol?_of_strip hshape
    rw [hclass, hclass, (h ref).classSymbol?]
  | _ => simp only [classSymbol?, hshape]

/-- Members correspond in two modules that agree about every class. -/
theorem members_of_sameClass (t : Annotation) :
    Outcome.Related (List.Forall₂ (Member.Related Annotation.Akin)) (m.members t).outcome
      (m'.members t).outcome := by
  unfold members
  split
  · exact (h _).classMembers
  · exact .ok .nil

/-- Two modules mean the same by every annotation, if they mean the same by every class. -/
theorem simulates_of_sameClass :
    TypeModel.Simulates m.model m'.model Annotation.Akin
      (fun i j ↦ ∃ ref ref', i = .cls ref ∧ j = .cls ref' ∧ ref'.withoutFamily = ref.withoutFamily) where
  symbol {a b} hab := by
    change m'.symbol? b = m.symbol? a
    have hclass : m'.classSymbol? b = m.classSymbol? a :=
      (hab.eq classSymbol?_of_strip m'.classSymbol?_withoutFamilies).trans
        (classSymbol?_of_sameClass h a)
    unfold symbol?
    rw [hclass, hab.outerDoc?, hab.eq render_of_strip Annotation.render_withoutFamilies]
  flags {a b} hab :=
    (hab.eq flags_of_strip m'.flags_withoutFamilies).trans (flags_of_sameClass h a)
  literal {a b} hab := congrArg (Except.map Value.toJson)
    (hab.eq literalValue_of_strip Annotation.literalValue_withoutFamilies)
  unionMembers {a b} hab := by
    change List.Forall₂ _ (m.unionMembers a) (m'.unionMembers b)
    rw [← unionMembers_of_sameClass h a]
    exact m'.forall₂_unionMembers hab
  isArray {a b} hab := hab.eq isArray_of_strip Annotation.isArray_withoutFamilies
  element? {a b} hab := hab.element?
  isTuple {a b} hab :=
    (hab.eq isTuple_of_strip m'.isTuple_withoutFamilies).trans (isTuple_of_sameClass h a)
  members {a b} hab := by
    have hmembers := members_of_sameClass h a
    rw [← hab.eq members_of_strip m'.members_withoutFamilies] at hmembers
    exact hmembers
  render {a b} hab := hab.eq render_of_strip Annotation.render_withoutFamilies
  identity {a b} hab hobject := by
    obtain ⟨ref, hleft, -⟩ := exists_cls_of_object hobject
    have hright : b.strip.withoutFamilies = .cls ref.withoutFamily := by
      rw [hab.strip, hleft, Annotation.withoutFamilies]
    obtain ⟨ref', hright, hsame⟩ := Annotation.exists_cls_of_withoutFamilies hright
    exact ⟨ref, ref', hleft, hright, hsame⟩
  beq := by
    rintro _ _ _ _ ⟨ref, ref', rfl, rfl, hsame⟩ ⟨other, other', rfl, rfl, hother⟩
    have hright := Annotation.identical_cls ref' other'
    rw [← ClassRef.same_withoutFamily, hsame, hother, ClassRef.same_withoutFamily] at hright
    have hleft := Annotation.identical_cls ref other
    exact hright.trans hleft.symm

end

/-- Akin annotations have the same schema or the same error in modules whose classes correspond. -/
theorem outcome_compile_of_sameClass (h : ∀ ref, SameClass m m' ref) (hab : Annotation.Akin a b) :
    (m'.model.compile b).outcome = (m.model.compile a).outcome :=
  (simulates_of_sameClass h).outcome_compile (m.ends a) (m'.ends b) hab

end Module

end Schematic
