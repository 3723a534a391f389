import Schematic.Proofs.AbsentMembers
import Schematic.Proofs.CollectedFields
import Schematic.Proofs.EarlierClasses
import Schematic.Proofs.StructDeclarations

/-!
# The flavours of a struct

A struct declared from the same members as a typed dictionary, a dataclass, a class of annotations or
a model has the same schema in every flavour, or the same error. A model takes the metadata off the
types of its fields, so this holds for models where that metadata documents nothing.
-/

namespace Schematic

namespace Annotation

variable {a b c t : Annotation}

/-! ## Types that make the same member -/

/-- A type as typing forms give it: `None` is written as its type, also under metadata. -/
structure IsType (t : Annotation) : Prop where
  asType : t.asType = t
  inner : ∀ inner metadata, t = annotated inner metadata → inner.isNoneValue = false

theorem IsType.isNoneValue (h : IsType t) : t.isNoneValue = false := by
  cases t with
  | value v =>
    cases v with
    | none => exact nomatch h.asType
    | _ => rfl
  | _ => rfl

/-! ## What a model takes off -/

/-- A type with nothing but metadata without documentation for a model to take off. -/
def BareField (t : Annotation) : Prop :=
  ∀ inner metadata, t = annotated inner metadata → ∀ data ∈ metadata, data.documentation? = none

namespace BareField

theorem wraps (h : BareField t) : Wraps t.content t := by
  cases t with
  | annotated inner metadata => exact .annotated (h inner metadata rfl) .self
  | _ => exact .self

/-- What a model takes off does not document anything. -/
theorem exists_peel (h : BareField t) : ∃ plain : List Metadata,
    (∀ data ∈ plain, data.documentation? = none) ∧
      t.peel = (t.content.peel.1, plain ++ t.content.peel.2) := by
  cases t with
  | annotated inner metadata => exact ⟨metadata, h inner metadata rfl, rfl⟩
  | _ => exact ⟨[], by simp, rfl⟩

end BareField

/-- Metadata without documentation can be left out of what remains of a union. -/
theorem akin_present {members : List Annotation} {plain metadata : List Metadata}
    (hplain : ∀ data ∈ plain, data.documentation? = none) (htype : IsType (present members metadata)) :
    Akin (present members (plain ++ metadata)) (present members metadata) := by
  have hnone : plain.findSome? Metadata.documentation? = none := Wraps.findSome?_of_plain hplain
  unfold present at htype ⊢
  dsimp only at htype ⊢
  generalize unionOf (members.filter fun member ↦ !member.isUndefined) = rest at htype ⊢
  cases metadata with
  | nil =>
    rw [List.append_nil]
    cases plain with
    | nil => exact .refl _
    | cons data others =>
      have hwraps : Wraps rest (rest.annotatedWith (data :: others)) :=
        .annotatedWith hplain htype.asType htype.inner .self
      exact (Akin.of_strip (hwraps.strip_eq htype.isNoneValue)
        (hwraps.outerDoc?_eq htype.isNoneValue)).symm
  | cons data others =>
    have hleft : (plain ++ data :: others).isEmpty = false := by simp
    rw [if_neg (by simp [hleft]), if_neg (by simp)]
    replace htype := htype.inner
    rw [if_neg (by simp)] at htype
    unfold annotatedWith at htype ⊢
    split
    · rename_i inner own hshape
      have hinner : inner.isNoneValue = false := by
        rw [hshape] at htype
        exact htype inner _ rfl
      refine .of_strip ?_ ?_
      · simp only [strip, hinner]
        rfl
      · simp only [outerDoc?, List.findSome?_append, hnone, Option.none_or]
    · rename_i hother
      have hinner : rest.asType.isNoneValue = false := by
        refine htype rest.asType (data :: others) ?_
        split
        · rename_i hshape
          exact absurd hshape (hother _ _)
        · rfl
      refine .of_strip ?_ ?_
      · simp only [strip, hinner]
        rfl
      · simp only [outerDoc?, List.findSome?_append, hnone, Option.none_or]

theorem BareField.sameMember (h : BareField t) (hnone : t.content.isNoneValue = false)
    (hrest : ∀ rest, t.content.withoutUndefined? = some rest → IsType rest) :
    SameMember t t.content := by
  obtain ⟨plain, hplain, hpeel⟩ := h.exists_peel
  refine ⟨(Akin.of_strip (h.wraps.strip_eq hnone) (h.wraps.outerDoc?_eq hnone)).symm, ?_⟩
  cases hfound : t.content.withoutUndefined? with
  | none =>
    have hnot : t.withoutUndefined? = none := by
      rw [withoutUndefined?_eq_none_iff] at hfound ⊢
      rwa [hpeel]
    rw [hnot]
    exact .none
  | some rest =>
    have hmarked : ¬ t.content.withoutUndefined? = none := by simp [hfound]
    simp only [withoutUndefined?_eq_none_iff, not_forall, not_not] at hmarked
    obtain ⟨style, members, hunion, hundefined⟩ := hmarked
    have hkept := withoutUndefined?_of_peel (Prod.ext hunion rfl) hundefined
    rw [hunion] at hpeel
    rw [withoutUndefined?_of_peel hpeel hundefined]
    obtain rfl := Option.some.inj (hfound.symm.trans hkept)
    exact .some (akin_present hplain (hrest _ hfound))

/-! ## Texts as optional keys -/

/-- A type that means the same as a part of a type, also if it is a text. -/
def SameWithin (reading : Reading) (t : Annotation) : Prop :=
  ∀ text, t.asType = .forward text → reading.meaning .part text = reading.meaning .whole text

/-- A type may be resolved before it is made optional, or after. -/
theorem SameWithin.resolve_qualify {reading : Reading}
    (h : t.SameWithin reading) : (t.qualify .notRequired).resolve reading =
      (t.resolve reading).map (qualified .notRequired) := by
  have hinner : resolveWith (reading.meaning .part) t.asType = t.resolve reading := by
    by_cases htext : ∃ text, t.asType = .forward text
    · obtain ⟨text, htext⟩ := htext
      rw [resolve, textPosition_of_asType htext, htext]
      exact h text htext
    · refine resolveWith_congr _ fun text hmem ↦ ?_
      cases t with
      | value v =>
        rw [texts_asType_value fun found hfound ↦ htext ⟨found, hfound⟩] at hmem
        exact absurd hmem List.not_mem_nil
      | forward text => exact absurd ⟨text, rfl⟩ htext
      | _ => rfl
  have hqualify : (t.qualify .notRequired).resolve reading =
      (resolveWith (reading.meaning .part) t.asType).map (.qualified .notRequired) :=
    rfl
  rw [hqualify, hinner]

end Annotation

/-! ## Members -/

namespace Module

variable {m n : Module} {t t' : Annotation}

/-- An empty text documents nothing. -/
theorem member_filled (own : String) (t : Annotation) (optional : Bool) (doc : Option String) :
    member own t optional (filled doc) = member own t optional doc := by
  have hparse : Docstring.parseOption (filled doc) own = Docstring.parseOption doc own := by
    cases doc with
    | none => rfl
    | some text =>
      by_cases hempty : text = ""
      · subst hempty
        rfl
      · simp [filled, Option.filter, hempty]
  unfold member
  rw [hparse]

end Module

namespace StructDecl

variable (s : StructDecl)

/-- The members that a struct reports, given the types that it has for them. -/
def membersFor (types : Dict Annotation) (docs : Dict String) : List (Member Annotation) :=
  s.members.map fun x ↦ Module.member (s.known x) ((Dict.get? (s.known x) types).getD x.type)
    x.default.isSome (Dict.get? (s.known x) docs)

theorem related_membersFor {types types' : Dict Annotation}
    (h : Dict.Related (fun _ ↦ Annotation.SameMember) types types') (docs : Dict String) :
    List.Forall₂ (Member.Related Annotation.Akin) (s.membersFor types docs)
      (s.membersFor types' docs) := by
  unfold membersFor
  rw [List.forall₂_map_left_iff, List.forall₂_map_right_iff]
  refine List.forall₂_same.mpr fun x _ ↦ Module.related_member ?_ _ _ _
  have hfound := h.get? (s.known x)
  generalize Dict.get? (s.known x) types = left at hfound ⊢
  generalize Dict.get? (s.known x) types' = right at hfound ⊢
  cases hfound with
  | none => exact .refl _
  | some hsame => exact hsame

/-- Nothing depends on the texts of other names. -/
theorem membersFor_congr {docs docs' : Dict String}
    (h : ∀ x ∈ s.members, Dict.get? (s.known x) docs' = Dict.get? (s.known x) docs)
    (types : Dict Annotation) : s.membersFor types docs' = s.membersFor types docs := by
  unfold membersFor
  exact List.map_congr_left fun x hx ↦ by rw [h x hx]

variable {s} (hnodup : (s.members.map s.known).Nodup)

include hnodup

/-- Members listed in the order of a dictionary of their types. -/
theorem map_eq_membersFor {types : Dict Annotation} (hkeys : Dict.keys types = s.members.map s.known)
    {docs : Dict String} {found : String × Annotation → Member Annotation}
    (hfound : ∀ x ∈ s.members, ∀ t, (s.known x, t) ∈ types → found (s.known x, t) =
      Module.member (s.known x) t x.default.isSome (Dict.get? (s.known x) docs)) :
    types.map found = s.membersFor types docs := by
  have hlength : types.length = s.members.length := by
    simpa only [Dict.keys, List.length_map] using congrArg List.length hkeys
  unfold membersFor
  refine List.ext_getElem (by simp [hlength]) fun i hi hi' ↦ ?_
  rw [List.length_map] at hi hi'
  have hkey : types[i].1 = s.known s.members[i] := by
    have hentries := List.getElem_of_eq hkeys (by simpa [Dict.keys] using hi)
    simpa only [Dict.keys, List.getElem_map] using hentries
  have hlisted : (s.known s.members[i], types[i].2) ∈ types := hkey ▸ List.getElem_mem hi
  have hentry : types[i] = (s.known s.members[i], types[i].2) := Prod.ext hkey rfl
  rw [List.getElem_map, List.getElem_map, hentry, hfound _ (List.getElem_mem hi') _ hlisted,
    Dict.get?_eq_some_of_mem (hkeys ▸ hnodup) hlisted, Option.getD_some]

end StructDecl

section

variable [Environment]

/-- A public name, of which the base class of models knows nothing. -/
structure IsFieldName (name : String) : Prop where
  isPublic : name.startsWith "_" = false
  unshadowed (m : Module) : m.inheritsAttribute [.model, .object] name = false
  undocumented : name ∉ ModelBase.texts.map Prod.fst

namespace Module

/-! ## The class of a struct -/

variable {m n : Module} {qualname : String} {s : StructDecl} {flavour : Flavour} {c : Class}

/-- A module holds the class of a struct, as it is declared in a flavour. -/
structure HoldsStruct (m : Module) (qualname : String) (s : StructDecl) (flavour : Flavour)
    (n : Module) (c : Class) : Prop where
  class? : n.classes[m.classes.length]? = some c
  declared : Declared m qualname (s.declaration flavour) c
  linear : c.linear = m.nextRef qualname (s.declaration flavour) :: flavour.tail

theorem Declares.exists_holdsStruct (h : m.Declares qualname (s.declaration flavour) n)
    (hflavour : flavour.isStruct = true) : ∃ c, HoldsStruct m qualname s flavour n c := by
  obtain ⟨c, hclass, hc⟩ := h.exists_class
  have hline := hc.linear
  rw [m.linearFor_completed s hflavour] at hline
  exact ⟨c, hclass, hc, (Except.ok.inj hline).symm⟩

namespace HoldsStruct

variable (h : HoldsStruct m qualname s flavour n c) (qualname' : String) (family : Family)

include h

theorem class?_own : n.class? (m.nextRef qualname (s.declaration flavour)) = some c :=
  h.class?

theorem linear_eq : n.linear (.declared m.classes.length qualname' family) =
    m.nextRef qualname (s.declaration flavour) :: flavour.tail := by
  rw [linear_declared h.class?, h.linear]

theorem derives_eq (base : ClassRef) : n.derives (.declared m.classes.length qualname' family) base =
    (base.same (m.nextRef qualname (s.declaration flavour)) || flavour.tail.any base.same) := by
  rw [derives, h.linear_eq, List.any_cons]

theorem isModel_eq : n.isModel (.declared m.classes.length qualname' family) =
    (flavour matches .model) := by
  rw [isModel, h.derives_eq]
  cases flavour <;> rfl

theorem isTypedDict_eq : n.isTypedDict (.declared m.classes.length qualname' family) =
    (flavour matches .typedDict _) := by
  rw [h.declared.isTypedDict_eq h.class?, m.flavour_completed]
  cases flavour <;> rfl

/-- The members have their own documentation texts, if the base class of models has none for them. -/
theorem exists_attributeDocs
    (hnames : flavour = .model → ∀ x ∈ s.members, IsFieldName (s.known x)) :
    ∃ docs, (n.attributeDocs (.declared m.classes.length qualname' family)).outcome = .ok docs ∧
      ∀ x ∈ s.members, Dict.get? (s.known x) docs = Dict.get? (s.known x) s.docs := by
  have hown : (n.ownAttributeDocs (m.nextRef qualname (s.declaration flavour))).1 =
      Statement.documented (s.declaration flavour).body := by
    unfold ownAttributeDocs
    rw [h.class?_own]
    change c.ownAttributeDocs.1 = _
    unfold Class.ownAttributeDocs
    rw [h.declared.declaration]
    rfl
  have hline : (n.linear (.declared m.classes.length qualname' family)).reverse =
      flavour.tail.reverse ++ [m.nextRef qualname (s.declaration flavour)] := by
    rw [h.linear_eq, List.reverse_cons]
  have hinherited (x : MemberDecl) (hx : x ∈ s.members) :
      s.known x ∉ ((flavour.tail.reverse.map n.ownAttributeDocs).flatMap Prod.fst).map Prod.fst := by
    cases flavour with
    | model =>
      change s.known x ∉ ([] ++ (ModelBase.texts ++ [])).map Prod.fst
      rw [List.nil_append, List.append_nil]
      exact (hnames rfl x hx).undocumented
    | _ => exact List.not_mem_nil
  refine ⟨_, rfl, fun x hx ↦ ?_⟩
  rw [hline, List.map_append, List.flatMap_append, List.map_singleton, List.flatMap_singleton, hown,
    Dict.ofList, Dict.update, List.foldl_append]
  change Dict.get? (s.known x) (Dict.update (Dict.ofList _) _) = _
  rw [Dict.get?_update, s.documented_body,
    Dict.get?_eq_none_iff.mpr (Dict.mem_keys_ofList.not.mpr (hinherited x hx)), Option.or_none]

theorem dataFields?_eq : n.dataFields? (.declared m.classes.length qualname' family) = c.dataFields := by
  have htail : (flavour.tail.findSome? fun base ↦ (n.class? base).bind Class.dataFields) = none := by
    cases flavour <;> rfl
  unfold dataFields?
  rw [h.linear_eq, List.findSome?_cons, h.class?_own, Option.bind_some, htail]
  cases c.dataFields <;> rfl

variable (hnodup : (s.members.map s.known).Nodup)

include hnodup

/-- Every member is annotated with the type that is recorded. -/
theorem annotations_own : n.annotations (m.nextRef qualname (s.declaration flavour)) =
    s.members.map fun x ↦ (s.known x, x.recordedIn flavour) := by
  rw [annotations, h.class?_own]
  change c.annotations = _
  rw [h.declared.annotations, m.recordedAnnotations_completed s hnodup]

/-- A struct has no hints but its own. -/
theorem hints_eq : n.hints (.declared m.classes.length qualname' family) =
    resolveEntries (n.reading (m.nextRef qualname (s.declaration flavour)))
      (s.members.map fun x ↦ (s.known x, x.recordedIn flavour)) := by
  have htail : n.hintsAlong [] flavour.tail.reverse = .ok [] := by
    cases flavour <;> rfl
  rw [hints_eq_of_linear (h.linear_eq qualname' family), htail, h.annotations_own hnodup]
  cases hresolved : resolveEntries (n.reading (m.nextRef qualname (s.declaration flavour)))
      (s.members.map fun x ↦ (s.known x, x.recordedIn flavour)) with
  | error failure => rfl
  | ok resolved =>
    have hkeys := (resolveEntries_eq_ok_iff.mp hresolved).keys_eq
    refine congrArg Except.ok (Dict.ofList_of_nodup ?_)
    change (Dict.keys resolved).Nodup
    rw [hkeys, Dict.keys, List.map_map]
    exact hnodup

omit hnodup

variable (hs : s.Proper) (types : Dict Annotation) (docs : Dict String)

include hs

/-! ## Members in each flavour -/

/-- A typed dictionary reports its members as they are declared. -/
theorem keyMembers_eq (hflavour : flavour = .typedDict true)
    (htypes : Dict.keys types = s.members.map s.known) :
    keyMembers (n.optionalKeys (.declared m.classes.length qualname' family)) types docs =
      s.membersFor types docs := by
  subst hflavour
  have hkeys : n.optionalKeys (.declared m.classes.length qualname' family) =
      ((s.declaration (.typedDict true)).ownAnnotations.filter fun entry ↦
        isOptionalKey true entry.2).map Prod.fst := by
    change ((n.class? (m.nextRef qualname (s.declaration (.typedDict true)))).map
      Class.optionalKeys).getD [] = _
    rw [h.class?_own, Option.map_some, Option.getD_some, h.declared.optionalKeys, m.flavour_completed]
    rfl
  unfold keyMembers
  rw [hkeys]
  refine StructDecl.map_eq_membersFor hs.nodup htypes fun x hx t _ ↦ ?_
  dsimp only
  rw [s.contains_optionalKeys hs.nodup hs.unqualified hx]

theorem fieldMembers_eq {keywordOnly : Bool} (hflavour : flavour = .dataclass keywordOnly)
    (hstored : ∀ x ∈ s.members, m.roleOf x.type = .stored) :
    ∃ fields, n.dataFields? (.declared m.classes.length qualname' family) = some fields ∧
      fieldMembers fields types docs = s.membersFor types docs := by
  subst hflavour
  obtain ⟨fields, hfields, hmade⟩ := h.declared.dataFields keywordOnly (m.flavour_completed s _)
  refine ⟨fields, (h.dataFields?_eq _ _).trans hfields, ?_⟩
  have hown : fields = s.members.map fun x ↦
      (s.known x, ⟨.stored, x.type, x.default.isSome, keywordOnly⟩) := by
    rw [h.linear, List.drop_one, List.tail_cons] at hmade
    have hmapped : m.ownDataFields [.object] keywordOnly
        (m.completed (s.declaration (.dataclass keywordOnly))) =
        s.members.map fun x ↦ (s.known x, ⟨.stored, x.type, x.default.isSome, keywordOnly⟩) := by
      unfold ownDataFields
      change (s.declaration (.dataclass keywordOnly)).ownAnnotations.map _ = _
      rw [s.ownAnnotations_declaration hs.nodup, List.map_map]
      refine List.map_congr_left fun x hx ↦ ?_
      have hinitial : (m.completed (s.declaration (.dataclass keywordOnly))).initial? (s.known x) =
          x.default.map Initial.value := s.initial?_declaration hs.nodup _ rfl hx
      have hinherits : m.inheritsAttribute [.object] (s.known x) = false :=
        m.inheritsAttribute_object (hs.fresh x hx)
      have hrole : m.roleOf (x.typeIn (.dataclass keywordOnly)) = .stored := hstored x hx
      simp only [Function.comp_apply, hinitial, hinherits, hrole]
      cases x.default <;> rfl
    rw [eq_of_dataFieldsFor hmade]
    change Dict.ofList (m.ownDataFields [.object] keywordOnly _) = _
    rw [hmapped]
    exact Dict.ofList_of_nodup (by rw [List.map_map]; exact hs.nodup)
  unfold fieldMembers
  rw [hown, List.filter_eq_self.mpr (by simp), List.map_map]
  rfl

theorem attributeMembers_eq (hflavour : flavour = .plain)
    (htypes : Dict.keys types = s.members.map s.known)
    (hshared : ∀ entry ∈ types, entry.2.isQualifiedBy .classVar = false) :
    n.attributeMembers (.declared m.classes.length qualname' family) types docs =
      s.membersFor types docs := by
  subst hflavour
  unfold attributeMembers
  rw [List.filter_eq_self.mpr fun entry hentry ↦ by rw [hshared entry hentry]; rfl]
  refine StructDecl.map_eq_membersFor hs.nodup htypes fun x hx t _ ↦ ?_
  have hattribute : n.hasAttribute (.declared m.classes.length qualname' family) (s.known x) =
      x.default.isSome := by
    have hown : n.ownAttributes (m.nextRef qualname (s.declaration .plain)) =
        (s.declaration .plain).ownAttributes := by
      rw [Module.ownAttributes, h.class?_own]
      change c.declaration.ownAttributes = _
      rw [h.declared.declaration]
      rfl
    have htail : n.inheritsAttribute Flavour.plain.tail (s.known x) = false :=
      n.inheritsAttribute_object (hs.fresh x hx)
    unfold inheritsAttribute at htail
    unfold hasAttribute inheritsAttribute
    rw [h.linear_eq, List.any_cons, hown, s.contains_ownAttributes hs.nodup hx, Bool.or_left_comm,
      htail, Bool.or_false]
  dsimp only
  rw [hattribute]

/-- What is assumed of the library when the struct is declared as a model. -/
theorem annotatesMembers (hflavour : flavour = .model)
    (hresolved : resolveEntries
      ((m.atDeclaration qualname (s.declaration flavour)).reading
        (m.nextRef qualname (s.declaration flavour))) s.types = .ok types)
    (hnames : ∀ x ∈ s.members, IsFieldName (s.known x))
    (hmember : ∀ entry ∈ types, entry.2.content.isQualifiedBy .classVar = false ∧
      entry.2.content.isQualifiedBy .final = false) :
    Environment.AnnotatesMembers (m.atDeclaration qualname (s.declaration flavour))
      (m.nextRef qualname (s.declaration flavour)) (m.completed (s.declaration flavour)) types := by
  subst hflavour
  obtain ⟨outline, hclass, houtlined⟩ := h.declared.outline
  have hannotations : (m.completed (s.declaration .model)).ownAnnotations = s.types :=
    s.ownAnnotations_declaration hs.nodup .model
  have hlinear := houtlined.linear
  rw [m.linearFor_completed s rfl] at hlinear
  have hlisted : ∀ name ∈ Dict.keys types, ∃ x ∈ s.members, s.known x = name := by
    intro name hname
    rw [(resolveEntries_eq_ok_iff.mp hresolved).keys_eq, Dict.keys, StructDecl.types, List.map_map] at hname
    exact List.mem_map.mp hname
  refine ⟨⟨outline, hclass, (Except.ok.inj hlinear).symm, ?_⟩, hannotations.symm ▸ hresolved, ?_, ?_,
    hmember, ?_⟩
  · rw [houtlined.annotations, m.recordedAnnotations_completed s hs.nodup, hannotations]
    rfl
  · intro name hname
    obtain ⟨x, hx, rfl⟩ := hlisted name hname
    exact (hnames x hx).isPublic
  · intro name hname
    obtain ⟨x, hx, rfl⟩ := hlisted name hname
    exact (hnames x hx).unshadowed _
  · intro name hname initial hinitial
    obtain ⟨x, hx, rfl⟩ := hlisted name hname
    have hown : (m.completed (s.declaration .model)).initial? (s.known x) =
      x.default.map Initial.value := s.initial?_declaration hs.nodup .model rfl hx
    rw [hown, Option.mem_def, Option.map_eq_some_iff] at hinitial
    obtain ⟨value, -, rfl⟩ := hinitial
    exact ⟨value, rfl⟩

/-- A model lists its members as they are, without the metadata around their types. -/
theorem modelMembers_eq (hcollected : Environment.CollectsAnnotations) (hflavour : flavour = .model)
    (hresolved : resolveEntries
      ((m.atDeclaration qualname (s.declaration flavour)).reading
        (m.nextRef qualname (s.declaration flavour))) s.types = .ok types)
    (hnames : ∀ x ∈ s.members, IsFieldName (s.known x))
    (hmember : ∀ entry ∈ types, entry.2.content.isQualifiedBy .classVar = false ∧
      entry.2.content.isQualifiedBy .final = false) :
    ∃ fields, c.modelFields = some fields ∧ modelMembers fields docs =
      s.membersFor (types.map fun entry ↦ (entry.1, entry.2.content)) docs := by
  have hannotates := h.annotatesMembers hs types hflavour hresolved hnames hmember
  have hkeys : Dict.keys types = s.members.map s.known := by
    rw [(resolveEntries_eq_ok_iff.mp hresolved).keys_eq, Dict.keys, StructDecl.types, List.map_map]
    rfl
  subst hflavour
  obtain ⟨fields, hfields, hmade⟩ := h.declared.modelFields (m.flavour_completed s .model)
  obtain rfl := hcollected hmade hannotates
  rw [Dict.ofList_of_nodup] at hfields
  swap
  · rw [List.map_map]
    change (Dict.keys types).Nodup
    exact hkeys ▸ hs.nodup
  refine ⟨_, hfields, ?_⟩
  have hmembers : modelMembers (types.map fun entry ↦ (entry.1,
      ⟨entry.2.content, ((m.completed (s.declaration .model)).initial? entry.1).isSome, none, none⟩)) docs =
      (types.map fun entry ↦ (entry.1, entry.2.content)).map fun entry ↦
        member entry.1 entry.2 ((m.completed (s.declaration .model)).initial? entry.1).isSome
          (Dict.get? entry.1 docs) := by
    rw [modelMembers, List.map_map, List.map_map]
    refine List.map_congr_left fun entry _ ↦ ?_
    simp only [Function.comp_apply, Option.or_none, member_filled]
    rfl
  rw [hmembers]
  refine StructDecl.map_eq_membersFor hs.nodup ?_ fun x hx t _ ↦ ?_
  · rw [Dict.keys_map_snd, hkeys]
  · have hown : (m.completed (s.declaration .model)).initial? (s.known x) =
      x.default.map Initial.value := s.initial?_declaration hs.nodup .model rfl hx
    dsimp only
    rw [hown, Option.isSome_map]

omit hs

/-- In every flavour the class is a struct to the compiler. -/
theorem classify_eq (hflavour : flavour.isStruct = true) (hnodup : (s.members.map s.known).Nodup)
    (hannotated : flavour = .plain → s.members ≠ []) :
    n.model.classify (.cls (.declared m.classes.length qualname' family)) = .ok .object := by
  have henumeration : n.isEnumeration (.declared m.classes.length qualname' family) = false := by
    rw [isEnumeration, h.derives_eq]
    cases flavour <;> rfl
  have htuple : n.isTupleClass (.declared m.classes.length qualname' family) = false := by
    have hderives : n.derives (.declared m.classes.length qualname' family) .tuple = false := by
      rw [h.derives_eq]
      cases flavour <;> rfl
    rw [isTupleClass, hderives, Bool.false_and, Bool.or_false]
    rfl
  have hstruct : n.isStruct (.declared m.classes.length qualname' family) = true := by
    have hmodel := h.isModel_eq qualname' family
    have hdict := h.isTypedDict_eq qualname' family
    unfold isStruct
    cases flavour with
    | typedDict total => rw [hdict, Bool.true_or, Bool.true_or, Bool.true_or]
    | model => rw [hmodel, Bool.or_true, Bool.true_or]
    | dataclass keywordOnly =>
      obtain ⟨fields, hfields, -⟩ := h.declared.dataFields keywordOnly (m.flavour_completed s _)
      rw [isDataclass, h.dataFields?_eq, hfields, Option.isSome_some, Bool.or_true, Bool.true_or,
        Bool.true_or]
    | plain =>
      have hown : n.annotations (.declared m.classes.length qualname' family) =
          s.members.map fun x ↦ (s.known x, x.recordedIn .plain) := h.annotations_own hnodup
      rw [hown, List.isEmpty_eq_false_iff.mpr (by simpa using hannotated rfl), Bool.not_false,
        Bool.or_true]
    | _ => cases hflavour
  have hflags : n.model.flags (.cls (.declared m.classes.length qualname' family)) =
      .ok [.object] := by
    change Except.ok (if n.isEnumeration (.declared m.classes.length qualname' family) then _
      else n.structFlags (.declared m.classes.length qualname' family)) = _
    rw [henumeration, structFlags, hstruct, Bool.or_true, if_pos rfl, if_neg Bool.false_ne_true]
  have hshape : n.model.isTuple (.cls (.declared m.classes.length qualname' family)) = false := htuple
  have harray : n.model.isArray (.cls (.declared m.classes.length qualname' family)) = .ok false := rfl
  unfold TypeModel.classify TypeModel.classifyShape
  rw [hflags, harray, hshape]
  rfl

end HoldsStruct

end Module

/-! ## Structs declared in a flavour -/

/-- A type of which a model keeps all that a schema shows. -/
structure Annotation.KeptByModels (t : Annotation) : Prop where
  bare : t.BareField
  member : t.content.isQualifiedBy .classVar = false ∧ t.content.isQualifiedBy .final = false
  isNoneValue : t.content.isNoneValue = false
  rest : ∀ rest, t.content.withoutUndefined? = some rest → rest.IsType

namespace StructDecl

variable {s : StructDecl} {m n n₁ n₂ : Module} {qualname : String} {flavour flavour₁ flavour₂ : Flavour}

/-- Where the annotations of a struct are read: those of a model when it is declared, and those of
other classes when they are asked for. -/
def reading (s : StructDecl) (m : Module) (qualname : String) (flavour : Flavour) (n : Module) :
    Annotation.Reading :=
  match flavour with
  | .model =>
    (m.atDeclaration qualname (s.declaration .model)).reading (m.nextRef qualname (s.declaration .model))
  | flavour => n.reading (m.nextRef qualname (s.declaration flavour))

/-- Where a class is no model, annotations are read when they are asked for. -/
theorem reading_eq (hflavour : flavour ≠ .model) : s.reading m qualname flavour n =
    n.reading (m.nextRef qualname (s.declaration flavour)) := by
  cases flavour <;> first | rfl | exact absurd rfl hflavour

/-- A struct that a module holds as declared in a flavour, with all that the flavour asks for: a
signature is no documentation of a dataclass and no text announces another role of a field, a text that
is an optional key means the same under what marks it as optional, a class without annotations is no
struct, and a model has names of fields and reads its annotations at once. -/
structure DeclaredIn (s : StructDecl) (m : Module) (qualname : String) (flavour : Flavour) (n : Module) :
    Prop where
  isStruct : flavour.isStruct = true
  declares : m.Declares qualname (s.declaration flavour) n
  doc (keywordOnly : Bool) (hflavour : flavour = .dataclass keywordOnly) :
    ∀ text, s.doc = some text → text.startsWith (s.name ++ "(") = false
  stored (keywordOnly : Bool) (hflavour : flavour = .dataclass keywordOnly) :
    ∀ x ∈ s.members, m.roleOf x.type = .stored
  quoted (total : Bool) (hflavour : flavour = .typedDict total) :
    ∀ x ∈ s.members, x.default.isSome → x.type.SameWithin (s.reading m qualname flavour n)
  annotated (hflavour : flavour = .plain) : s.members ≠ []
  types : ∀ types, Module.resolveEntries (s.reading m qualname flavour n) s.types = .ok types →
    ∀ entry ∈ types, entry.2.isQualifiedBy .classVar = false ∧ entry.2.isNoneValue = false
  model (hflavour : flavour = .model) :
    (∀ x ∈ s.members, IsFieldName (s.known x)) ∧
    ∃ types, Module.resolveEntries (s.reading m qualname flavour n) s.types = .ok types ∧
      ∀ entry ∈ types, entry.2.KeptByModels

omit [Environment] in
/-- What a class of a flavour has for the types of a struct makes the same members. -/
theorem related_recorded (flavour : Flavour) (reading : Annotation.Reading)
    (hquoted : (flavour matches .typedDict _) = true → ∀ x ∈ s.members, x.default.isSome = true →
      x.type.SameWithin reading)
    (htypes : ∀ types, Module.resolveEntries reading s.types = .ok types →
      ∀ entry ∈ types, entry.2.isNoneValue = false) :
    Outcome.Related (Dict.Related fun _ ↦ Annotation.SameMember) (Module.resolveEntries reading s.types)
      (Module.resolveEntries reading (s.members.map fun x ↦ (s.known x, x.recordedIn flavour))) := by
  have hrecorded : Outcome.Related (Dict.Related fun _ u u' ↦ u' = u ∨ u' = .qualified .notRequired u)
      (Module.resolveEntries reading s.types)
      (Module.resolveEntries reading (s.members.map fun x ↦ (s.known x, x.recordedIn flavour))) := by
    let Q (_ : String) (t t' : Annotation) : Prop :=
      t' = t ∨ t' = t.asType ∨ (t' = t.qualify .notRequired ∧ t.SameWithin reading)
    refine Module.related_resolveEntries (Q := Q) ?_ ?_
    · rw [Dict.Related, types, List.forall₂_map_left_iff, List.forall₂_map_right_iff]
      refine List.forall₂_same.mpr fun x hx ↦ ⟨rfl, ?_⟩
      unfold MemberDecl.recordedIn MemberDecl.typeIn
      cases flavour with
      | typedDict total =>
        dsimp only
        split
        · rename_i hdefault
          exact .inr (.inr ⟨rfl, hquoted rfl x hx hdefault⟩)
        · exact .inr (.inl rfl)
      | _ => exact .inl rfl
    · rintro _ t t' (rfl | rfl | ⟨rfl, hsame⟩)
      · exact .refl (fun _ ↦ .inl rfl) _
      · rw [t.resolve_asType]
        exact .refl (fun _ ↦ .inl rfl) _
      · rw [hsame.resolve_qualify]
        cases t.resolve reading with
        | error failure => exact .error failure
        | ok u => exact .ok (.inr rfl)
  generalize Module.resolveEntries reading s.types = left at htypes hrecorded ⊢
  generalize Module.resolveEntries reading _ = right at hrecorded ⊢
  cases hrecorded with
  | error failure => exact .error failure
  | @ok types recorded hrecorded =>
    refine .ok (hrecorded.mem.imp fun entry entry' hentry ↦ ?_)
    obtain ⟨hkey, hsame | hqualified, hlisted, -⟩ := hentry
    · exact ⟨hkey, hsame ▸ .refl _⟩
    · exact ⟨hkey, hqualified ▸ .notRequired (htypes types rfl _ hlisted)⟩

/-- A struct that is no model reports the members that it has hints for. -/
theorem DeclaredIn.reported_eq (hs : s.Proper) (h : s.DeclaredIn m qualname flavour n)
    (hflavour : flavour ≠ .model) {c : Class} (hc : Module.HoldsStruct m qualname s flavour n c)
    (qualname' : String) (family : Family) {types : Dict Annotation}
    (htypes : n.hints (.declared m.classes.length qualname' family) = .ok types) (docs : Dict String) :
    n.reported (.declared m.classes.length qualname' family) types docs = s.membersFor types docs := by
  rw [hc.hints_eq qualname' family hs.nodup] at htypes
  have hkeys : Dict.keys types = s.members.map s.known := by
    rw [(Module.resolveEntries_eq_ok_iff.mp htypes).keys_eq, Dict.keys, List.map_map]
    rfl
  have hstruct := h.isStruct
  have hdict := hc.isTypedDict_eq qualname' family
  unfold Module.reported
  cases flavour with
  | typedDict total =>
    obtain rfl : total = true := by cases total <;> first | rfl | cases hstruct
    rw [if_pos hdict]
    exact hc.keyMembers_eq qualname' family hs types docs rfl hkeys
  | dataclass keywordOnly =>
    obtain ⟨fields, hfields, hmembers⟩ :=
      hc.fieldMembers_eq qualname' family hs types docs rfl (h.stored keywordOnly rfl)
    rw [if_neg (by rw [hdict]; exact Bool.false_ne_true), hfields]
    exact hmembers
  | plain =>
    have hnone : n.dataFields? (.declared m.classes.length qualname' family) = none := by
      rw [hc.dataFields?_eq]
      exact hc.declared.noDataFields fun keywordOnly heq ↦ by
        cases (m.flavour_completed s .plain).symm.trans heq
    rw [if_neg (by rw [hdict]; exact Bool.false_ne_true), hnone]
    exact hc.attributeMembers_eq qualname' family hs types docs rfl hkeys fun entry hentry ↦
      (h.types types htypes entry hentry).1
  | model => exact absurd rfl hflavour
  | _ => cases hstruct

/-- In every flavour a struct reports its members, with types that make the same members. -/
theorem DeclaredIn.exists_shown (hcollected : Environment.CollectsAnnotations) (hs : s.Proper)
    (h : s.DeclaredIn m qualname flavour n)
    (qualname' : String) (family : Family) : ∃ shown : Except Failure (Dict Annotation),
      Outcome.Related (Dict.Related fun _ ↦ Annotation.SameMember)
        (Module.resolveEntries (s.reading m qualname flavour n) s.types) shown ∧
      (n.classMembers (.declared m.classes.length qualname' family)).outcome =
        (shown.mapError (Module.unresolved (.declared m.classes.length qualname' family))).map
          fun types ↦ s.membersFor types s.docs := by
  obtain ⟨c, hc⟩ := h.declares.exists_holdsStruct h.isStruct
  obtain ⟨docs, hdocs, hsame⟩ := hc.exists_attributeDocs qualname' family fun hflavour ↦
    (h.model hflavour).1
  simp only [← s.membersFor_congr hsame]
  have hmodel := hc.isModel_eq qualname' family
  by_cases hflavour : flavour = .model
  · subst hflavour
    obtain ⟨hnames, types, hresolved, hkept⟩ := h.model rfl
    obtain ⟨fields, hfields, hmembers⟩ := hc.modelMembers_eq hs types docs hcollected rfl hresolved
      hnames fun entry hentry ↦ (hkept entry hentry).member
    refine ⟨.ok (types.map fun entry ↦ (entry.1, entry.2.content)), ?_, ?_⟩
    · rw [hresolved]
      refine .ok ?_
      rw [Dict.Related, List.forall₂_map_right_iff]
      refine List.forall₂_same.mpr fun entry hentry ↦ ⟨rfl, ?_⟩
      have hkept := hkept entry hentry
      exact hkept.bare.sameMember hkept.isNoneValue hkept.rest
    · have hclass : n.class? (.declared m.classes.length qualname' family) = some c := hc.class?
      have hplain : ClassRef.mappings.contains (.declared m.classes.length qualname' family) = false := by
        simp [ClassRef.mappings]
      unfold Module.classMembers
      simp only [hplain, hmodel, hclass, Bool.false_eq_true, if_false, if_true, Option.bind_some,
        hfields, Option.getD_some, Logged.outcome_bind, hdocs, Outcome.ok_bind, hmembers]
      rfl
  · have hreading : s.reading m qualname flavour n =
        n.reading (m.nextRef qualname (s.declaration flavour)) := s.reading_eq hflavour
    have hnot : n.isModel (.declared m.classes.length qualname' family) = false := by
      rw [hmodel]
      cases flavour <;> first | rfl | exact absurd rfl hflavour
    have hhints := hc.hints_eq qualname' family hs.nodup
    refine ⟨n.hints (.declared m.classes.length qualname' family), ?_, ?_⟩
    · rw [hhints, ← hreading]
      refine related_recorded flavour _ (fun hkeys x hx hdefault ↦ ?_) fun types htypes entry hentry ↦
        (h.types types htypes entry hentry).2
      cases flavour with
      | typedDict total => exact h.quoted total rfl x hx hdefault
      | _ => cases hkeys
    · rw [Module.outcome_classMembers (ClassRef.contains_mappings_declared ..) hnot hdocs]
      cases hresult : n.hints (.declared m.classes.length qualname' family) with
      | error failure => rfl
      | ok types =>
        refine congrArg Except.ok ?_
        exact h.reported_eq hs hflavour hc qualname' family hresult docs

/-- The documentation of a struct is the same in every flavour; an empty text is none. -/
theorem DeclaredIn.parseOption_classDoc? (h : s.DeclaredIn m qualname flavour n)
    (qualname' : String) (family : Family) :
    Docstring.parseOption (n.classDoc? (.declared m.classes.length qualname' family)) qualname' =
      Docstring.parseOption s.doc qualname' := by
  obtain ⟨c, hc⟩ := h.declares.exists_holdsStruct h.isStruct
  have hdoc : n.classDoc? (.declared m.classes.length qualname' family) =
      (m.completed (s.declaration flavour)).classDoc.filter fun text ↦
        !(n.isDataclass (.declared m.classes.length qualname' family) &&
          text.startsWith (s.name ++ "(")) := by
    rw [Module.classDoc?, Module.class?, hc.class?, Option.bind_some, hc.declared.declaration]
    rfl
  have hwritten : (m.completed (s.declaration flavour)).writtenDoc = s.doc :=
    s.writtenDoc_declaration flavour
  have hstruct := h.isStruct
  have hsignature := h.doc
  rw [hdoc, Declaration.classDoc, hwritten, m.flavour_completed]
  cases hwhole : s.doc with
  | none => cases flavour <;> first | rfl | cases hstruct
  | some text =>
    by_cases hdata : ∃ keywordOnly, flavour = .dataclass keywordOnly
    · obtain ⟨keywordOnly, rfl⟩ := hdata
      by_cases hempty : text = ""
      · subst hempty
        rfl
      · have hkept := hsignature keywordOnly rfl text hwhole
        simp [hempty, Option.filter, hkept]
    · have hnot : n.isDataclass (.declared m.classes.length qualname' family) = false := by
        rw [Module.isDataclass, hc.dataFields?_eq, hc.declared.noDataFields, Option.isSome_none]
        intro keywordOnly heq
        exact hdata ⟨keywordOnly, (m.flavour_completed s flavour).symm.trans heq⟩
      rw [hnot]
      cases flavour with
      | dataclass keywordOnly => exact absurd ⟨keywordOnly, rfl⟩ hdata
      | _ => simp [Option.filter]

theorem DeclaredIn.related_classMembers (hcollected : Environment.CollectsAnnotations) (hs : s.Proper)
    (h₁ : s.DeclaredIn m qualname flavour₁ n₁)
    (h₂ : s.DeclaredIn m qualname flavour₂ n₂)
    (hmeanings : Module.SameHints (Module.resolveEntries (s.reading m qualname flavour₁ n₁) s.types)
      (Module.resolveEntries (s.reading m qualname flavour₂ n₂) s.types))
    (qualname' : String) (family : Family) :
    Outcome.Related (List.Forall₂ (Member.Related Annotation.Akin))
      (n₁.classMembers (.declared m.classes.length qualname' family)).outcome
      (n₂.classMembers (.declared m.classes.length qualname' family)).outcome := by
  obtain ⟨shown₁, hshown₁, hmembers₁⟩ := h₁.exists_shown hcollected hs qualname' family
  obtain ⟨shown₂, hshown₂, hmembers₂⟩ := h₂.exists_shown hcollected hs qualname' family
  rw [hmembers₁, hmembers₂]
  unfold Module.SameHints at hmeanings
  generalize Module.resolveEntries (s.reading m qualname flavour₁ n₁) s.types = left at hmeanings hshown₁
  generalize Module.resolveEntries (s.reading m qualname flavour₂ n₂) s.types = right at hmeanings hshown₂
  cases hmeanings with
  | error failure =>
    cases hshown₁
    cases hshown₂
    exact .error _
  | ok hmeanings =>
    obtain ⟨hshown₁⟩ := hshown₁
    obtain ⟨hshown₂⟩ := hshown₂
    refine .ok (s.related_membersFor ?_ s.docs)
    have hleft := hshown₁.symm fun _ _ _ ↦ Annotation.SameMember.symm
    have hright := hmeanings.trans hshown₂ fun _ _ _ _ hsame ↦
      Annotation.SameMember.trans (.of_withoutFamilies hsame)
    exact hleft.trans hright fun _ _ _ _ ↦ Annotation.SameMember.trans

/-- A struct has the same schema or the same error in any two flavours in which its annotations mean
the same, and so has every annotation. The classes of the module are left alone; those that come after
the struct have to be the same themselves. -/
theorem compile_flavours (hcollected : Environment.CollectsAnnotations) (hm : m.Built) (hs : s.Proper)
    (h₁ : s.DeclaredIn m qualname flavour₁ n₁) (h₂ : s.DeclaredIn m qualname flavour₂ n₂)
    (hmeanings : Module.SameHints (Module.resolveEntries (s.reading m qualname flavour₁ n₁) s.types)
      (Module.resolveEntries (s.reading m qualname flavour₂ n₂) s.types))
    (hearlier : m.KeepsMeanings n₁ n₂)
    (hlater : ∀ number qualname family, m.classes.length < number →
      Module.SameClass n₁ n₂ (.declared number qualname family)) :
    (n₂.model.compile (.cls (m.nextRef qualname (s.declaration flavour₂)))).outcome =
        (n₁.model.compile (.cls (m.nextRef qualname (s.declaration flavour₁)))).outcome ∧
      ∀ t t', t'.withoutFamilies = t.withoutFamilies →
        (n₂.model.compile t').outcome = (n₁.model.compile t).outcome := by
  have hothers : Module.AgreeElsewhere n₁ n₂ m.classes.length :=
    Module.agreeElsewhere_of_built hm h₁.declares.earlier h₂.declares.earlier hearlier hlater
  have hsame (ref : ClassRef) : Module.SameClass n₁ n₂ ref := by
    by_cases hown : ∃ qualname family, ref = .declared m.classes.length qualname family
    · obtain ⟨qualname', family, rfl⟩ := hown
      obtain ⟨c₁, hc₁⟩ := h₁.declares.exists_holdsStruct h₁.isStruct
      obtain ⟨c₂, hc₂⟩ := h₂.declares.exists_holdsStruct h₂.isStruct
      have hobject₁ := hc₁.classify_eq qualname' family h₁.isStruct hs.nodup h₁.annotated
      have hobject₂ := hc₂.classify_eq qualname' family h₂.isStruct hs.nodup h₂.annotated
      refine Module.sameClass_of_object hobject₁ hobject₂ ?_ ?_ ?_
      · rw [hc₁.declared.listedMembers_eq_nil hc₁.class? hobject₁,
          hc₂.declared.listedMembers_eq_nil hc₂.class? hobject₂]
      · rw [h₁.parseOption_classDoc?, h₂.parseOption_classDoc?]
      · exact h₁.related_classMembers hcollected hs h₂ hmeanings qualname' family
    · exact hothers ref fun qualname family heq ↦ hown ⟨qualname, family, heq⟩
  have hcompile (t t' : Annotation) (ht : t'.withoutFamilies = t.withoutFamilies) :
      (n₂.model.compile t').outcome = (n₁.model.compile t).outcome :=
    Module.outcome_compile_of_sameClass hsame (.of_withoutFamilies ht)
  exact ⟨hcompile _ _ rfl, hcompile⟩

/-! ## A record and a model -/

def numbered : StructDecl where
  name := "T"
  doc := none
  members := [⟨"x", .cls (.builtin "int"), none, none⟩, ⟨"y", .cls (.builtin "str"), some (.str ""), none⟩]

omit [Environment] in
theorem numbered_proper : numbered.Proper := by
  have hknown : numbered.members.map numbered.known = ["x", "y"] := rfl
  refine ⟨by rw [hknown]; decide, fun x hx ↦ ?_, fun x hx ↦ ?_⟩
  all_goals
    rcases List.mem_pair.mp hx with rfl | rfl <;> rfl

omit [Environment] in
/-- Its types are found without any text. -/
theorem resolveEntries_numbered (reading : Annotation.Reading) :
    Module.resolveEntries reading numbered.types =
      .ok [("x", .cls (.builtin "int")), ("y", .cls (.builtin "str"))] :=
  rfl

theorem numbered_declaredIn_typedDict : numbered.DeclaredIn .empty "T" (.typedDict true)
    (Module.empty.declaring "T" (numbered.declaration (.typedDict true))) where
  isStruct := rfl
  declares := Module.declares_declaring rfl
  doc _ hflavour := by cases hflavour
  stored _ hflavour := by cases hflavour
  quoted total hflavour x hx _ text htext := by
    rcases List.mem_pair.mp hx with rfl | rfl <;> cases htext
  annotated hflavour := by cases hflavour
  types types htypes entry hentry := by
    obtain rfl := Except.ok.inj ((resolveEntries_numbered _).symm.trans htypes)
    rcases List.mem_pair.mp hentry with rfl | rfl <;> exact ⟨rfl, rfl⟩
  model hflavour := by cases hflavour

theorem numbered_declaredIn_model (hnames : ∀ x ∈ numbered.members, IsFieldName (numbered.known x))
    (hdeclared : (Module.empty.declare "T" (numbered.declaration .model)).isOk = true) :
    numbered.DeclaredIn .empty "T" .model
      (Module.empty.declaring "T" (numbered.declaration .model)) where
  isStruct := rfl
  declares := Module.declares_declaring hdeclared
  doc _ hflavour := by cases hflavour
  stored _ hflavour := by cases hflavour
  quoted total hflavour := by cases hflavour
  annotated hflavour := by cases hflavour
  types types htypes entry hentry := by
    obtain rfl := Except.ok.inj ((resolveEntries_numbered _).symm.trans htypes)
    rcases List.mem_pair.mp hentry with rfl | rfl <;> exact ⟨rfl, rfl⟩
  model _ := by
    refine ⟨hnames, _, resolveEntries_numbered _, fun entry hentry ↦ ?_⟩
    rcases List.mem_pair.mp hentry with rfl | rfl <;>
      exact ⟨fun _ _ hshape ↦ (by cases hshape), ⟨rfl, rfl⟩, rfl, fun rest hrest ↦ (by cases hrest)⟩

end StructDecl

end

namespace StructDecl

attribute [local instance] Environment.plain

theorem isFieldName_numbered : ∀ x ∈ numbered.members, IsFieldName (numbered.known x) := by
  intro x hx
  rcases List.mem_pair.mp hx with rfl | rfl
  all_goals exact ⟨by decide +kernel, fun _ ↦ rfl, List.not_mem_nil⟩

/-- A number and a text have one schema in two flavours. -/
theorem compile_flavours_numbered :
    ((Module.empty.declaring "T" (numbered.declaration .model)).model.compile
        (.cls (.declared 0 "T" .model))).outcome =
      ((Module.empty.declaring "T" (numbered.declaration (.typedDict true))).model.compile
        (.cls (.declared 0 "T" .typedDict))).outcome ∧
    ((Module.empty.declaring "T" (numbered.declaration .model)).model.compile
        (.cls (.declared 0 "T" .model))).outcome =
      .ok [("type", .str "object"),
        ("properties", .obj [("x", .obj [("type", .str "number")]), ("y", .obj [("type", .str "string")])]),
        ("required", .strings ["x"])] := by
  have hmodel := numbered_declaredIn_model isFieldName_numbered (by decide +kernel)
  obtain ⟨hsame, -⟩ := compile_flavours Module.collectsAnnotations_plain .empty numbered_proper
    numbered_declaredIn_typedDict hmodel
    (by
      rw [resolveEntries_numbered, resolveEntries_numbered]
      exact .refl _)
    (Module.keepsMeanings_of_texts fun ref ↦ by cases ref <;> exact fun _ hentry ↦ nomatch hentry)
    fun number qualname family hnumber ↦
      Module.sameClass_of_last (m := _) hnumber hnumber qualname family
  exact ⟨hsame, hsame.trans rfl⟩

/-! ## Documentation that a model takes off -/

/-- A number that is documented in metadata. -/
def documented : StructDecl where
  name := "T"
  doc := none
  members := [⟨"x", .annotated (.cls (.builtin "int")) [.doc "@minimum 0"], none, none⟩]

/-- The keywords in the schema of a member. -/
def memberKeywords (result : Except Failure Node) (member : String) : Option (List String) :=
  result.toOption.bind fun node ↦ ((Json.obj node).get? "properties").bind fun properties ↦
    (properties.get? member).map fun schema ↦ schema.fields.map Prod.fst

/-- A model takes the documentation of a number off, and with it the bound. -/
theorem compile_documented_in_flavours :
    memberKeywords ((Module.empty.declaring "T" (documented.declaration (.typedDict true))).model.compile
        (.cls (.declared 0 "T" .typedDict))).outcome "x" = some ["type", "minimum"] ∧
    memberKeywords ((Module.empty.declaring "T" (documented.declaration .model)).model.compile
        (.cls (.declared 0 "T" .model))).outcome "x" = some ["type"] := by
  decide +kernel

end StructDecl

end Schematic
