import Schematic.Proofs.FollowedTexts
import Schematic.Proofs.Linearization

/-!
# Classes that were there before

A declaration leaves the earlier classes alone. So they are the same to every schema in two modules
that go on from one module, if their annotations mean the same in both, where the families of classes
do not count. Ways of declaring one more class are therefore compared by that class, and by those
declared after it.
-/

namespace Schematic

namespace Annotation

variable {a b c t : Annotation}

theorem isQualifiedBy_withoutFamilies (qualifier : Qualifier) (t : Annotation) :
    t.withoutFamilies.isQualifiedBy qualifier = t.isQualifiedBy qualifier := by
  cases t <;> rfl

/-! ## Types that make the same member -/

/-- Types that make the same member of a struct. -/
structure SameMember (a b : Annotation) : Prop where
  akin : Akin a b
  rest : Option.Rel Akin a.withoutUndefined? b.withoutUndefined?

namespace SameMember

theorem refl (t : Annotation) : SameMember t t := by
  refine ⟨.refl t, ?_⟩
  cases t.withoutUndefined? with
  | none => exact .none
  | some rest => exact .some (.refl rest)

theorem symm (h : SameMember a b) : SameMember b a := by
  refine ⟨h.akin.symm, ?_⟩
  have hrest := h.rest
  generalize a.withoutUndefined? = left at hrest ⊢
  generalize b.withoutUndefined? = right at hrest ⊢
  cases hrest with
  | none => exact .none
  | some hrest => exact .some hrest.symm

theorem trans (hab : SameMember a b) (hbc : SameMember b c) : SameMember a c := by
  refine ⟨hab.akin.trans hbc.akin, ?_⟩
  have hleft := hab.rest
  have hright := hbc.rest
  generalize a.withoutUndefined? = left at hleft ⊢
  generalize b.withoutUndefined? = middle at hleft hright
  generalize c.withoutUndefined? = right at hright ⊢
  cases hleft with
  | none =>
    cases hright with
    | none => exact .none
  | some hleft =>
    cases hright with
    | some hright => exact .some (hleft.trans hright)

/-- Families of classes do not count for a member. -/
theorem of_withoutFamilies (h : b.withoutFamilies = a.withoutFamilies) : SameMember a b := by
  refine ⟨.of_withoutFamilies h, ?_⟩
  have hmap := congrArg withoutUndefined? h
  rw [withoutUndefined?_withoutFamilies, withoutUndefined?_withoutFamilies] at hmap
  generalize a.withoutUndefined? = left at hmap ⊢
  generalize b.withoutUndefined? = right at hmap ⊢
  cases left with
  | none =>
    rw [Option.map_none, Option.map_eq_none_iff] at hmap
    rw [hmap]
    exact .none
  | some rest =>
    obtain ⟨rest', rfl, hrest⟩ := Option.map_eq_some_iff.mp hmap
    exact .some (.of_withoutFamilies hrest)

/-- What qualifies a key is no part of its type. -/
theorem notRequired (h : t.isNoneValue = false) : SameMember t (qualified .notRequired t) := by
  refine ⟨?_, ?_⟩
  · have hwraps : Wraps t (qualified .notRequired t) := .qualified rfl .self
    exact .of_strip (hwraps.strip_eq h) (hwraps.outerDoc?_eq h)
  · have hpeel : (qualified .notRequired t).peel = t.peel := rfl
    unfold withoutUndefined?
    rw [hpeel]
    exact (refl t).rest

end SameMember

end Annotation

namespace Module

variable [Environment] {m m' n n₁ n₂ : Module} {t t' : Annotation} {ref : ClassRef}

omit [Environment] in
theorem related_member (h : Annotation.SameMember t t') (own : String) (optional : Bool)
    (doc : Option String) : Member.Related Annotation.Akin (member own t optional doc)
      (member own t' optional doc) := by
  have hrest := h.rest
  unfold member
  generalize t.withoutUndefined? = left at hrest ⊢
  generalize t'.withoutUndefined? = right at hrest ⊢
  cases hrest with
  | none => exact ⟨rfl, h.akin, rfl, rfl⟩
  | some hrest => exact ⟨rfl, hrest, rfl, rfl⟩

/-! ## Classes that two modules share -/

/-- Annotations that mean the same where the families of classes do not count. -/
def SameHints (hints hints' : Except Failure (Dict Annotation)) : Prop :=
  Outcome.Related (Dict.Related fun _ t t' ↦ t'.withoutFamilies = t.withoutFamilies) hints hints'

omit [Environment] in
theorem SameHints.refl (hints : Except Failure (Dict Annotation)) : SameHints hints hints := by
  cases hints with
  | error failure => exact .error failure
  | ok types => exact .ok (List.forall₂_same.mpr fun _ _ ↦ ⟨rfl, rfl⟩)

/-- A class and all its bases are the same in two modules, and what they annotate means the same. -/
structure SameLine (m m' : Module) (ref : ClassRef) : Prop where
  class? : m'.class? ref = m.class? ref
  line : ∀ base ∈ m.linear ref, m'.class? base = m.class? base ∧
    SameHints (resolveEntries (m.reading base) (m.annotations base))
      (resolveEntries (m'.reading base) (m'.annotations base))

namespace SameLine

theorem linear_eq (h : SameLine m m' ref) : m'.linear ref = m.linear ref := by
  unfold linear
  rw [h.class?]

/-- Whatever is asked of the bases one by one has the same answers. -/
theorem map_linear_eq {β : Type} (h : SameLine m m' ref) (answer answer' : ClassRef → β)
    (hanswer : ∀ base, m'.class? base = m.class? base → answer' base = answer base) :
    (m'.linear ref).map answer' = (m.linear ref).map answer := by
  rw [h.linear_eq]
  exact List.map_congr_left fun base hbase ↦ hanswer base (h.line base hbase).1

theorem derives_eq (h : SameLine m m' ref) (base : ClassRef) :
    m'.derives ref base = m.derives ref base := by
  unfold derives
  rw [h.linear_eq]

theorem dataFields?_eq (h : SameLine m m' ref) : m'.dataFields? ref = m.dataFields? ref := by
  have hline := congrArg (List.findSome? id) (h.map_linear_eq
    (fun base ↦ (m.class? base).bind Class.dataFields)
    (fun base ↦ (m'.class? base).bind Class.dataFields) fun base hbase ↦ by rw [hbase])
  unfold dataFields?
  simpa only [List.findSome?_map, Function.id_comp] using hline

theorem hasAttribute_eq (h : SameLine m m' ref) (name : String) :
    m'.hasAttribute ref name = m.hasAttribute ref name := by
  have hline := congrArg (List.any · id) (h.map_linear_eq
    (fun base ↦ (m.ownAttributes base).contains name)
    (fun base ↦ (m'.ownAttributes base).contains name)
    fun base hbase ↦ by rw [ownAttributes, ownAttributes, hbase])
  unfold hasAttribute inheritsAttribute
  simpa only [List.any_map, Function.id_comp] using congrArg (_ || ·) hline

theorem isTypedDict_eq (h : SameLine m m' ref) : m'.isTypedDict ref = m.isTypedDict ref := by
  unfold isTypedDict
  rw [h.class?]

theorem isStruct_eq (h : SameLine m m' ref) : m'.isStruct ref = m.isStruct ref := by
  unfold isStruct isDataclass isModel annotations
  rw [h.isTypedDict_eq, h.dataFields?_eq, h.derives_eq, h.class?]

theorem isTupleClass_eq (h : SameLine m m' ref) : m'.isTupleClass ref = m.isTupleClass ref := by
  simp only [isTupleClass, h.derives_eq, h.hasAttribute_eq]

/-- The texts of its attributes are the same. -/
theorem attributeDocs_eq (h : SameLine m m' ref) : m'.attributeDocs ref = m.attributeDocs ref := by
  have hline := h.map_linear_eq m.ownAttributeDocs m'.ownAttributeDocs
    fun base hbase ↦ by
      unfold Module.ownAttributeDocs
      rw [hbase]
  unfold attributeDocs
  rw [List.map_reverse, List.map_reverse, hline]

/-- Hints are collected alike along a line of bases. -/
theorem sameHints_along {line : List ClassRef} (hline : ∀ base ∈ line,
    SameHints (resolveEntries (m.reading base) (m.annotations base))
      (resolveEntries (m'.reading base) (m'.annotations base))) {hints hints' : Dict Annotation}
    (hhints : Dict.Related (fun _ t t' ↦ t'.withoutFamilies = t.withoutFamilies) hints hints') :
    SameHints (m.hintsAlong hints line) (m'.hintsAlong hints' line) := by
  induction line generalizing hints hints' with
  | nil => exact .ok hhints
  | cons base rest ih =>
    obtain ⟨hbase, hrest⟩ := List.forall_mem_cons.mp hline
    rw [hintsAlong, hintsAlong]
    generalize resolveEntries (m.reading base) _ = left at hbase ⊢
    generalize resolveEntries (m'.reading base) _ = right at hbase ⊢
    cases hbase with
    | error failure => exact .error failure
    | ok hown => exact ih hrest (hhints.update hown)

theorem sameHints (h : SameLine m m' ref) : SameHints (m.hints ref) (m'.hints ref) := by
  unfold hints
  rw [h.linear_eq]
  exact sameHints_along (fun base hbase ↦ (h.line base (List.mem_reverse.mp hbase)).2) .nil

theorem related_reported (h : SameLine m m' ref) {hints hints' : Dict Annotation}
    (hhints : Dict.Related (fun _ t t' ↦ t'.withoutFamilies = t.withoutFamilies) hints hints')
    (docs : Dict String) : List.Forall₂ (Member.Related Annotation.Akin) (m.reported ref hints docs)
      (m'.reported ref hints' docs) := by
  have hkeys : m'.optionalKeys ref = m.optionalKeys ref := by
    unfold optionalKeys
    rw [h.class?]
  have hsame {t t' : Annotation} (ht : t'.withoutFamilies = t.withoutFamilies) :=
    related_member (.of_withoutFamilies ht)
  unfold reported
  rw [h.isTypedDict_eq, h.dataFields?_eq, hkeys]
  split
  · exact forall₂_keyMembers (hhints.imp fun _ _ hentry ↦ ⟨hentry.1, hsame hentry.2 _ _⟩)
  · cases m.dataFields? ref with
    | some fields =>
      refine forall₂_fieldMembers (Dict.related_refl (fun name field ↦ ⟨rfl, fun _ ↦ hsame ?_ _ _⟩) fields)
      have hfound := hhints.get? name
      generalize Dict.get? name hints = left at hfound ⊢
      generalize Dict.get? name hints' = right at hfound ⊢
      cases hfound with
      | none => rfl
      | some ht => exact ht
    | none =>
      refine forall₂_attributeMembers (hhints.imp fun entry entry' hentry ↦ ⟨hentry.1, ?_, fun doc ↦ ?_⟩)
      · rw [← Annotation.isQualifiedBy_withoutFamilies, hentry.2,
          Annotation.isQualifiedBy_withoutFamilies]
      · rw [h.hasAttribute_eq]
        exact hsame hentry.2 _ _ _

theorem related_classMembers (h : SameLine m m' ref) :
    Outcome.Related (List.Forall₂ (Member.Related Annotation.Akin)) (m.classMembers ref).outcome
      (m'.classMembers ref).outcome := by
  have hmodel : m'.isModel ref = m.isModel ref := h.derives_eq _
  by_cases hhinted : ClassRef.mappings.contains ref = false ∧ m.isModel ref = false
  · have hdocs : (m'.attributeDocs ref).outcome = (m.attributeDocs ref).outcome := by
      rw [h.attributeDocs_eq]
    rw [outcome_classMembers hhinted.1 hhinted.2 rfl,
      outcome_classMembers hhinted.1 (hmodel.trans hhinted.2) hdocs]
    have hhints := h.sameHints
    unfold SameHints at hhints
    generalize m.hints ref = left at hhints ⊢
    generalize m'.hints ref = right at hhints ⊢
    cases hhints with
    | error failure => exact .error _
    | ok hhints => exact .ok (h.related_reported hhints _)
  · have hmembers : m'.classMembers ref = m.classMembers ref := by
      unfold classMembers
      rw [hmodel, h.attributeDocs_eq, h.class?]
      split
      · rfl
      · rw [if_pos (by simp_all), if_pos (by simp_all)]
    rw [hmembers]
    refine .refl (fun members ↦ List.forall₂_same.mpr fun member _ ↦ ?_) _
    exact ⟨rfl, .refl _, rfl, rfl⟩

/-- To a schema, the class is the same. -/
theorem sameClass (h : SameLine m m' ref) : SameClass m m' ref where
  classFlags := by
    have henumeration : m'.isEnumeration ref = m.isEnumeration ref := h.derives_eq _
    have hstruct : m'.structFlags ref = m.structFlags ref := by
      simp only [structFlags, h.isTupleClass_eq, h.isStruct_eq]
    unfold classFlags
    split
    · rfl
    · rfl
    · rfl
    · rfl
    · rfl
    · rfl
    · rw [henumeration, hstruct]
  isTupleClass := h.isTupleClass_eq
  listedMembers := by
    unfold listedMembers enumerators
    rw [h.derives_eq, h.class?]
  classSymbol? := by
    have hdocumented : m'.isDocumented ref = m.isDocumented ref := by
      simp only [isDocumented, isEnumeration, h.derives_eq, h.isStruct_eq]
    have hdoc : m'.classDoc? ref = m.classDoc? ref := by
      simp only [classDoc?, isDataclass, h.class?, h.dataFields?_eq]
    simp only [classSymbol?, Annotation.strip, hdocumented, hdoc]
  classMembers := h.related_classMembers

/-- What is declared in neither module has no annotations, nor have its bases. -/
theorem of_undeclared (h : m.class? ref = none) (h' : m'.class? ref = none) : SameLine m m' ref where
  class? := h'.trans h.symm
  line := by
    intro base hbase
    have hnone : m.class? base = none ∧ m'.class? base = none := by
      rw [linear, h] at hbase
      rcases List.mem_cons.mp hbase with rfl | hbelow
      · exact ⟨h, h'⟩
      · exact ⟨(class?_of_mem_bases hbelow).1, (class?_of_mem_bases hbelow).1⟩
    rw [annotations, annotations, hnone.1, hnone.2]
    exact ⟨rfl, .ok .nil⟩

end SameLine

/-! ## Earlier classes -/

/-- A reference to a class that a module has, or to one that is declared in no module. -/
def Knows (m : Module) (ref : ClassRef) : Prop :=
  ∀ number ∈ ref.number?, number < m.classes.length

/-- The line of a class was there when the class was declared. -/
theorem knows_of_mem_linear (hm : m.Built) (href : m.Knows ref) {base : ClassRef}
    (hbase : base ∈ m.linear ref) : m.Knows base := by
  cases hclass : m.class? ref with
  | none =>
    rw [linear, hclass] at hbase
    rcases List.mem_cons.mp hbase with rfl | hbelow
    · exact href
    · intro number hnumber
      rw [number?_of_mem_bases hbelow] at hnumber
      cases hnumber
  | some c =>
    cases ref with
    | declared number qualname family =>
      obtain ⟨earlier, qualname', d, hearlier, hbases, hextends, hlast, hc⟩ := hm.exists_declared hclass
      obtain ⟨tail, hline⟩ := exists_tail_of_linearFor hc.linear
      have hheld := hc.holds_of_mem_tail hearlier hbases
      rw [linear_declared hclass, hline] at hbase
      rw [hline] at hheld
      rcases List.mem_cons.mp hbase with rfl | hbelow
      · intro number' hnumber
        obtain rfl : earlier.classes.length = number' := Option.some.inj hnumber
        exact hlast ▸ href number rfl
      · intro number' hnumber
        exact Nat.lt_of_lt_of_le ((hheld base hbelow).number number' hnumber) hextends.length_le
    | _ => cases hclass

/-- Two later modules in which the annotations of a module mean the same. -/
def KeepsMeanings (m n₁ n₂ : Module) : Prop :=
  ∀ ref, m.Knows ref → SameHints (resolveEntries (n₁.reading ref) (m.annotations ref))
    (resolveEntries (n₂.reading ref) (m.annotations ref))

/-- Annotations without texts mean the same everywhere. -/
theorem keepsMeanings_of_texts
    (h : ∀ ref, ∀ entry ∈ m.annotations ref, entry.2.asType.texts = []) : m.KeepsMeanings n₁ n₂ := by
  intro ref _
  have hsame : resolveEntries (n₂.reading ref) (m.annotations ref) =
      resolveEntries (n₁.reading ref) (m.annotations ref) := by
    have hentries := h ref
    generalize m.annotations ref = entries at hentries
    induction entries with
    | nil => rfl
    | cons entry rest ih =>
      obtain ⟨hfirst, hrest⟩ := List.forall_mem_cons.mp hentries
      rw [resolveEntries, resolveEntries, Annotation.resolve_of_texts_eq_nil hfirst, ih hrest]
  rw [hsame]
  exact .refl _

/-- In two modules that go on from one module, an earlier class is the same with all its bases. -/
theorem SameLine.of_built (hm : m.Built) (h₁ : m.classes <+: n₁.classes) (h₂ : m.classes <+: n₂.classes)
    (hmeanings : m.KeepsMeanings n₁ n₂) (href : m.Knows ref) : SameLine n₁ n₂ ref where
  class? := (class?_of_extends h₂ href).trans (class?_of_extends h₁ href).symm
  line := by
    intro base hbase
    rw [linear_of_extends h₁ href] at hbase
    have hknown := knows_of_mem_linear hm href hbase
    have hclass₁ := class?_of_extends h₁ hknown
    have hclass₂ := class?_of_extends h₂ hknown
    refine ⟨hclass₂.trans hclass₁.symm, ?_⟩
    rw [annotations, annotations, hclass₁, hclass₂]
    exact hmeanings base hknown

/-- There is nothing to compare after the last class. -/
theorem sameClass_of_last {number : Nat} (h : m.classes.length ≤ number) (h' : m'.classes.length ≤ number)
    (qualname : String) (family : Family) : SameClass m m' (.declared number qualname family) := by
  have hnone : m.class? (.declared number qualname family) = none := List.getElem?_eq_none h
  have hnone' : m'.class? (.declared number qualname family) = none := List.getElem?_eq_none h'
  exact (SameLine.of_undeclared hnone hnone').sameClass

/-- Two modules that go on from one module agree in all classes but the next one, if they do in those
declared after it. -/
theorem agreeElsewhere_of_built (hm : m.Built) (h₁ : m.classes <+: n₁.classes)
    (h₂ : m.classes <+: n₂.classes) (hmeanings : m.KeepsMeanings n₁ n₂)
    (hlater : ∀ number qualname family, m.classes.length < number →
      SameClass n₁ n₂ (.declared number qualname family)) :
    AgreeElsewhere n₁ n₂ m.classes.length := by
  intro ref href
  by_cases hknown : m.Knows ref
  · exact (SameLine.of_built hm h₁ h₂ hmeanings hknown).sameClass
  · cases ref with
    | declared number qualname family =>
      have hge : m.classes.length ≤ number := by
        by_contra hlt
        refine hknown fun number' hnumber ↦ ?_
        obtain rfl := Option.some.inj hnumber
        exact not_le.mp hlt
      have hne : m.classes.length ≠ number := fun heq ↦ href qualname family (heq ▸ rfl)
      exact hlater number qualname family (Nat.lt_of_le_of_ne hge hne)
    | _ => exact absurd (fun _ hnumber ↦ by cases hnumber) hknown

/-- A class that a module built by declarations goes on with in two ways. What it inherits and all
other classes are the same, if the earlier annotations mean the same. -/
theorem Redeclared.of_built {qualname : String} {d₁ d₂ : Declaration} (hm : m.Built)
    (hflavour : d₂.flavour = d₁.flavour) (hbases : d₂.bases = d₁.bases)
    (hheld : ∀ base ∈ d₁.bases, m.Holds base) (houtline : d₁.SameOutline d₂)
    (h₁ : m.Declares qualname d₁ n₁) (h₂ : m.Declares qualname d₂ n₂)
    (hmeanings : ∀ ref, m.Knows ref → resolveEntries (n₂.reading ref) (m.annotations ref) =
      resolveEntries (n₁.reading ref) (m.annotations ref))
    (hlater : ∀ number qualname family, m.classes.length < number →
      SameClass n₁ n₂ (.declared number qualname family)) :
    Redeclared m qualname d₁ d₂ n₁ n₂ where
  flavour := hflavour
  bases := hbases
  outline := houtline
  declares₁ := h₁
  declares₂ := h₂
  inherited := by
    obtain ⟨c, hclass, hc⟩ := h₁.exists_class
    have hlinear : n₁.linear (m.nextRef qualname d₁) = c.linear :=
      linear_declared hclass qualname _
    intro base hbase
    rw [hlinear, ← List.drop_one] at hbase
    have hknown : m.Knows base := (hc.holds_of_mem_tail hm hheld base hbase).number
    have hclass₁ := class?_of_extends h₁.earlier hknown
    have hclass₂ := class?_of_extends h₂.earlier hknown
    refine ⟨hclass₂.trans hclass₁.symm, ?_⟩
    rw [annotations, annotations, hclass₁, hclass₂]
    exact hmeanings base hknown
  others :=
    agreeElsewhere_of_built hm h₁.earlier h₂.earlier (fun ref href ↦ hmeanings ref href ▸ .refl _) hlater

end Module

end Schematic
