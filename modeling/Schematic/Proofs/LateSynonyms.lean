import Schematic.Class.Synonyms
import Schematic.Proofs.ClassDescent
import Schematic.Proofs.Classification

/-!
# Descending into late synonyms

With the values of the synonyms around it, an annotation is as good as one that contains them: the type
model with late values gives the answers that the module gives about what is shown. All that a descent
gets to is a part of the root, of a late value or of the type of a member. So where no cycle leads
through arrays alone, every descent is shorter than the bound on the nesting.
-/

namespace Schematic

open Relation TypeModel

namespace Annotation

/-! ## Parts -/

theorem self_mem_parts (t : Annotation) : t ∈ t.parts := by
  unfold parts
  split <;> simp

mutual

/-- A part of a part is a part. -/
theorem parts_trans {a b : Annotation} (hab : a ∈ b.parts) :
    ∀ {t : Annotation}, b ∈ t.parts → a ∈ t.parts
  | generic base args, h => by
    rcases List.mem_cons.mp h with rfl | h
    · exact hab
    · exact List.mem_cons_of_mem _ (partsOfAll_trans hab h)
  | annotated inner metadata, h => by
    rcases List.mem_cons.mp h with rfl | h
    · exact hab
    · exact List.mem_cons_of_mem _ (parts_trans hab h)
  | qualified qualifier inner, h => by
    rcases List.mem_cons.mp h with rfl | h
    · exact hab
    · exact List.mem_cons_of_mem _ (parts_trans hab h)
  | synonym number name inner, h => by
    rcases List.mem_cons.mp h with rfl | h
    · exact hab
    · exact List.mem_cons_of_mem _ (parts_trans hab h)
  | newType number name inner, h => by
    rcases List.mem_cons.mp h with rfl | h
    · exact hab
    · exact List.mem_cons_of_mem _ (parts_trans hab h)
  | cls _, h | value _, h | ellipsis, h | bare _, h | forward _, h | literal _, h | union _ _, h
  | collection _ _, h | mapping _, h | function _, h | opaqueObject _ _ _, h => by
    obtain rfl := List.mem_singleton.mp h
    exact hab

theorem partsOfAll_trans {a b : Annotation} (hab : a ∈ b.parts) :
    ∀ {types : List Annotation}, b ∈ partsOfAll types → a ∈ partsOfAll types
  | [], h => by cases h
  | first :: rest, h => by
    rcases List.mem_append.mp h with h | h
    · exact List.mem_append_left _ (parts_trans hab h)
    · exact List.mem_append_right _ (partsOfAll_trans hab h)

end

/-- An annotation is a part of itself, and so of a list that it is in. -/
theorem mem_partsOfAll {t : Annotation} {types : List Annotation} (h : t ∈ types) :
    t ∈ partsOfAll types := by
  induction types with
  | nil => cases h
  | cons first rest ih =>
    rcases List.mem_cons.mp h with rfl | h
    · exact List.mem_append_left _ t.self_mem_parts
    · exact List.mem_append_right _ (ih h)

/-! ## Values -/

variable {late : LateValues} {t shown : Annotation} {base : GenericBase} {args : List Annotation}

/-- What is seen of a wrapper is the wrapper itself or what is seen of its content. -/
theorem strip_of_wrapper {wrapper inner seen : Annotation} {keeps : Prop} [Decidable keeps]
    (h : (if keeps then wrapper else inner.strip) = seen) (hwrapper : wrapper ≠ seen) :
    inner.strip = seen := by
  split at h
  · exact absurd h hwrapper
  · exact h

/-- A parameterized class that is shown of an annotation is a part of it, or of a value that was found
on the way. -/
theorem mem_parts_of_exposedBy {value? : Nat → Option (Option Annotation)}
    (h : exposedBy value? t = some shown) (hstrip : shown.strip = generic base args) :
    generic base args ∈ t.parts ∨
      ∃ number value, value? number = some (some value) ∧ value.strip = generic base args := by
  fun_induction exposedBy value? t generalizing shown with
  | case1 number name inner ih =>
    obtain ⟨content, hcontent, rfl⟩ := Option.map_eq_some_iff.mp h
    have hinner := strip_of_wrapper hstrip nofun
    cases hvalue : value? number with
    | some value =>
      rw [hvalue] at hcontent
      exact .inr ⟨number, content, hvalue.trans (congrArg some hcontent), hinner⟩
    | none =>
      rw [hvalue] at hcontent
      exact (ih hcontent hinner).imp_left (List.mem_cons_of_mem _)
  | case2 number name inner ih =>
    obtain ⟨content, hcontent, rfl⟩ := Option.map_eq_some_iff.mp h
    exact (ih hcontent (strip_of_wrapper hstrip nofun)).imp_left (List.mem_cons_of_mem _)
  | case3 inner metadata ih =>
    obtain ⟨content, hcontent, rfl⟩ := Option.map_eq_some_iff.mp h
    exact (ih hcontent (strip_of_wrapper hstrip nofun)).imp_left (List.mem_cons_of_mem _)
  | case4 qualifier inner htransparent ih =>
    obtain ⟨content, hcontent, rfl⟩ := Option.map_eq_some_iff.mp h
    exact (ih hcontent (strip_of_wrapper hstrip nofun)).imp_left (List.mem_cons_of_mem _)
  | case5 qualifier inner hother =>
    obtain rfl := Option.some.inj h
    rw [strip, if_pos (by simp [hother])] at hstrip
    cases hstrip
  | case6 t =>
    obtain rfl := Option.some.inj h
    left
    have hself : t.strip = t := by
      unfold strip
      split <;> simp_all
    rw [← hstrip, hself]
    exact t.self_mem_parts

/-- What is shown as a parameterized annotation is written in the annotation or in the value of a
synonym. -/
theorem mem_parts_of_exposedWithin {steps : Nat} (h : exposedWithin late steps t = some shown)
    (hstrip : shown.strip = generic base args) :
    ∃ source ∈ t :: late.map Prod.snd, generic base args ∈ source.parts := by
  induction steps generalizing t shown with
  | zero =>
    rcases mem_parts_of_exposedBy h hstrip with hpart | ⟨number, value, hvalue, -⟩
    · exact ⟨t, List.mem_cons_self, hpart⟩
    · obtain ⟨found, -, heq⟩ := Option.map_eq_some_iff.mp hvalue
      cases heq
  | succ steps ih =>
    rcases mem_parts_of_exposedBy h hstrip with hpart | ⟨number, value, hvalue, hcontent⟩
    · exact ⟨t, List.mem_cons_self, hpart⟩
    · obtain ⟨found, hfound, heq⟩ := Option.map_eq_some_iff.mp hvalue
      obtain ⟨source, hsource, hpart⟩ := ih heq hcontent
      refine ⟨source, List.mem_cons_of_mem _ ?_, hpart⟩
      rcases List.mem_cons.mp hsource with rfl | hlater
      · obtain ⟨before, after, rfl, -⟩ := List.lookup_eq_some_iff.mp hfound
        simp
      · exact hlater

theorem exposed_eq_ok_iff : t.exposed late = .ok shown ↔ t.exposed? late = some shown := by
  unfold exposed
  split <;> simp_all

theorem exposed?_of_flat (h : ∀ value?, exposedBy value? t = some t) : t.exposed? late = some t := by
  unfold exposed?
  cases late.length with
  | zero => exact h _
  | succ steps => exact h _

end Annotation

namespace Module

open Annotation (strip exposed exposed_eq_ok_iff exposed?_of_flat mem_parts_of_exposedWithin mem_partsOfAll
  parts_trans)

variable [Environment] {m : Module} {late : LateValues} {t shown part : Annotation}

/-! ## Answers -/

/-- Questions about an annotation are answered by what is shown of it. -/
theorem flags_lateModel (h : t.exposed? late = some shown) :
    (m.lateModel late).flags t = m.model.flags shown := by
  change t.exposed late >>= m.flags = m.flags shown
  rw [exposed_eq_ok_iff.mpr h]
  rfl

theorem isArray_lateModel (h : t.exposed? late = some shown) :
    (m.lateModel late).isArray t = m.model.isArray shown := by
  change t.exposed late >>= Annotation.isArray = shown.isArray
  rw [exposed_eq_ok_iff.mpr h]
  rfl

theorem isTuple_lateModel (h : t.exposed? late = some shown) :
    (m.lateModel late).isTuple t = m.model.isTuple shown := by
  change (t.exposed? late).any m.isTuple = m.isTuple shown
  rw [h]
  rfl

theorem element?_lateModel (h : t.exposed? late = some shown) :
    (m.lateModel late).element? t = m.model.element? shown := by
  change (t.exposed? late).bind Annotation.element? = shown.element?
  rw [h]
  rfl

theorem members_lateModel (h : t.exposed? late = some shown) :
    ((m.lateModel late).members t).outcome = (m.model.members shown).outcome := by
  change (Logged.lift (t.exposed late) >>= m.members).outcome = (m.members shown).outcome
  rw [exposed_eq_ok_iff.mpr h, Logged.outcome_bind]
  rfl

/-- Apart from unions, whose members may be late synonyms, annotations are of the shape of what is shown
of them. -/
theorem resembles_lateModel : Resembles (m.lateModel late) m.model fun t shown ↦
    t.exposed? late = some shown ∧ ∀ style types, shown.strip ≠ .union style types where
  flags h := (flags_lateModel h.1).symm
  literal := by
    rintro t shown ⟨h, -⟩
    change shown.literalValue.map Value.toJson =
      t.exposed late >>= fun shown ↦ shown.literalValue.map Value.toJson
    rw [exposed_eq_ok_iff.mpr h]
    rfl
  unionMembers := by
    rintro t shown ⟨h, hother⟩
    change List.Forall₂ _ (((t.exposed? late).map (m.lateUnionMembers late)).getD [])
      (m.unionMembers shown)
    have hmembers : m.lateUnionMembers late shown = m.unionMembers shown := by
      unfold lateUnionMembers
      split
      · rename_i hstrip
        exact absurd hstrip (hother _ _)
      · rfl
    rw [h, Option.map_some, Option.getD_some, hmembers]
    refine List.forall₂_same.mpr fun member hmember ↦ ?_
    unfold Module.unionMembers at hmember
    split at hmember
    · obtain ⟨v, -, rfl⟩ := List.mem_map.mp hmember
      unfold Annotation.literalOfValue Annotation.literalOf
      split <;> exact ⟨exposed?_of_flat fun _ ↦ rfl, by simp [strip]⟩
    · rename_i hstrip
      exact absurd hstrip (hother _ _)
    · obtain ⟨v, -, rfl⟩ := List.mem_map.mp hmember
      exact ⟨exposed?_of_flat fun _ ↦ rfl, by simp [strip]⟩
    · cases hmember
  isArray h := (isArray_lateModel h.1).symm
  isTuple h := (isTuple_lateModel h.1).symm
  render := by
    rintro t shown ⟨h, -⟩
    change shown.render = ((t.exposed? late).getD t).render
    rw [h]
    rfl

theorem classify_lateModel (h : t.exposed? late = some shown) :
    (m.lateModel late).classify t = m.model.classify shown := by
  by_cases hunion : ∃ style types, shown.strip = .union style types
  · obtain ⟨style, types, hstrip⟩ := hunion
    have hflags : m.model.flags shown = .ok [.union] := by
      change m.flags shown = _
      rw [flags, hstrip]
    unfold classify
    rw [flags_lateModel h, hflags]
    rfl
  · exact (resembles_lateModel.classify
      ⟨h, fun style types hstrip ↦ hunion ⟨style, types, hstrip⟩⟩).symm

/-- What has an end to its synonyms or is of no category. -/
theorem exists_exposed_of_classify {category : Category}
    (h : (m.lateModel late).classify t = .ok category) : ∃ shown, t.exposed? late = some shown := by
  cases hshown : t.exposed? late with
  | some shown => exact ⟨shown, rfl⟩
  | none =>
    have hflags : (m.lateModel late).flags t = .error .unbounded := by
      change t.exposed late >>= m.flags = _
      rw [exposed, hshown]
      rfl
    rw [classify, hflags] at h
    cases h

/-! ## Steps -/

/-- A step to an element is one from what is shown. -/
theorem exists_elementStep (h : (m.lateModel late).ElementStep t part) :
    ∃ shown, t.exposed? late = some shown ∧ m.model.ElementStep shown part := by
  obtain ⟨harray, helement⟩ := h
  obtain ⟨shown, hshown⟩ := exists_exposed_of_classify harray
  rw [classify_lateModel hshown] at harray
  rw [element?_lateModel hshown] at helement
  exact ⟨shown, hshown, harray, helement⟩

theorem exists_memberStep (h : (m.lateModel late).MemberStep t part) :
    ∃ shown, t.exposed? late = some shown ∧ m.model.MemberStep shown part := by
  obtain ⟨hobject, members, hmembers, hpart⟩ := h
  obtain ⟨shown, hshown⟩ := exists_exposed_of_classify hobject
  rw [classify_lateModel hshown] at hobject
  rw [members_lateModel hshown] at hmembers
  exact ⟨shown, hshown, hobject, members, hmembers, hpart⟩

/-- All that a descent gets to is a part of the root, of a late value or of the type of a member. -/
theorem mem_lateParts {root type : Annotation}
    (h : ReflTransGen (m.lateModel late).Successor root type) : type ∈ m.lateParts late root := by
  induction h with
  | refl =>
    exact List.mem_flatMap.mpr ⟨root, List.mem_append_left _ List.mem_cons_self, root.self_mem_parts⟩
  | @tail type part _ hstep ih =>
    rcases hstep with helement | hmember
    · obtain ⟨shown, hshown, helement⟩ := exists_elementStep helement
      obtain ⟨base, args, hstrip, hpart⟩ := exists_generic_of_elementStep helement
      obtain ⟨source, hsource, hgeneric⟩ := mem_parts_of_exposedWithin hshown hstrip
      have hpart : part ∈ source.parts :=
        parts_trans (List.mem_cons_of_mem _ (mem_partsOfAll hpart)) hgeneric
      rcases List.mem_cons.mp hsource with rfl | hvalue
      · obtain ⟨origin, horigin, htype⟩ := List.mem_flatMap.mp ih
        exact List.mem_flatMap.mpr ⟨origin, horigin, parts_trans hpart htype⟩
      · exact List.mem_flatMap.mpr
          ⟨source, List.mem_append_left _ (List.mem_cons_of_mem _ hvalue), hpart⟩
    · obtain ⟨shown, -, hmember⟩ := exists_memberStep hmember
      obtain ⟨number, qualname, family, c, -, hclass, hpart⟩ :=
        exists_number_of_memberStep hmember
      have hnumber : number ∈ List.range m.classes.length :=
        List.mem_range.mpr (List.getElem?_eq_some_iff.mp hclass).1
      exact List.mem_flatMap.mpr ⟨part, List.mem_append_right _
        (List.mem_flatMap.mpr ⟨number, hnumber, hpart⟩), part.self_mem_parts⟩

/-! ## Structs -/

/-- What is shown of an annotation; if there is nothing, the annotation itself. -/
def shownOf (late : LateValues) (t : Annotation) : Annotation :=
  (t.exposed? late).getD t

theorem classify_shownOf (h : (m.lateModel late).classify t = .ok .object) :
    m.model.classify (shownOf late t) = .ok .object := by
  obtain ⟨shown, hshown⟩ := exists_exposed_of_classify h
  rw [shownOf, hshown, Option.getD_some, ← h]
  exact (classify_lateModel hshown).symm

/-- No more structs are open together than the module has without synonyms. -/
theorem length_openTogether_late {root : Annotation} {frames : List Annotation}
    (h : OpenTogether (m.lateModel late) root frames) : frames.length ≤ m.structs.length :=
  h.distinct.length_le (fun _ hobject ↦ (anonymous_mem_structs (classify_shownOf hobject)).1)
    fun _ _ ha hb ↦ same_of_anonymous (classify_shownOf ha) (classify_shownOf hb)

/-! ## Compilations that end -/

/-- Below an annotation, there is an end to the synonyms around every annotation, and no cycle leads
through arrays alone. -/
structure Grounded (m : Module) (late : LateValues) (root : Annotation) : Prop where
  shown (type : Annotation) (h : ReflTransGen (m.lateModel late).Successor root type) :
    ∃ shown, type.exposed? late = some shown
  arrays (type : Annotation) (h : ReflTransGen (m.lateModel late).Successor root type) :
    ¬ TransGen (m.lateModel late).ElementStep type type

/-- The structs of a module are among its classes and the base class of models. -/
theorem length_structs_le (m : Module) : m.structs.length ≤ m.classes.length + 1 := by
  refine (List.length_filter_le _ _).trans ?_
  simp

/-- Where late synonyms are grounded, no descent exhausts the bound on the nesting. -/
theorem Grounded.steps_lt {root type : Annotation} {steps : Nat} {frames : List Annotation}
    (hroot : m.Grounded late root) (h : Reached (m.lateModel late) root steps frames type) :
    steps < (m.lateModel late).depth root := by
  have hlt : steps < (m.structs.length + 1) * ((m.lateParts late root).length + 1) :=
    TypeModel.steps_lt hroot.arrays (fun type _ htype _ ↦ mem_lateParts htype)
      (fun _ ↦ length_openTogether_late) h
  have hle := m.length_structs_le
  exact hlt.trans_le (Nat.mul_le_mul_right _ (by omega))

/-- Every cycle below an annotation passes through a declared class. -/
theorem Grounded.exists_class {root type : Annotation} (hroot : m.Grounded late root)
    (htype : ReflTransGen (m.lateModel late).Successor root type)
    (h : TransGen (m.lateModel late).Successor type type) :
    ∃ middle shown ref c, ReflTransGen (m.lateModel late).Successor type middle ∧
      TransGen (m.lateModel late).Successor middle type ∧
      middle.exposed? late = some shown ∧ shown.strip = .cls ref ∧ m.class? ref = some c := by
  rcases Successor.elements_or_member h with helements | ⟨middle, part, hbefore, hmember, hafter⟩
  · exact absurd helements (hroot.arrays type htype)
  · obtain ⟨shown, hshown, hstep⟩ := exists_memberStep hmember
    obtain ⟨number, qualname, family, c, hshape, hclass, -⟩ := exists_number_of_memberStep hstep
    exact ⟨middle, shown, _, c, hbefore, .head' (.inr hmember) hafter, hshown, hshape, hclass⟩

end Module

end Schematic
