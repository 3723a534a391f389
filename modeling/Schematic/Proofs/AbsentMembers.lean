import Schematic.Proofs.EarlierClasses
import Schematic.Reference.Environment

/-!
# Members that may be absent

A member whose type is a union with the marker of absent values is an optional member of the rest of
the union. So a struct may as well declare the member optional and leave the marker out: it has the
same schema then, or the same error, in every flavour but that of models. This holds where nothing
but qualifiers and metadata stands around the union. An alias or a new type around it hides the
marker from the type model, though not from the compiler.
-/

namespace Schematic

namespace Annotation

/-- What remains of a union without the marker of absent values, in the metadata around the union. -/
def present (members : List Annotation) (metadata : List Metadata) : Annotation :=
  let rest := unionOf (members.filter fun member ↦ !member.isUndefined)
  if metadata.isEmpty then rest else annotatedWith rest metadata

theorem withoutUndefined?_of_peel {t : Annotation} {style : UnionStyle} {members : List Annotation}
    {metadata : List Metadata} (hpeel : t.peel = (union style members, metadata))
    (hundefined : .cls .undefined ∈ members) : t.withoutUndefined? = some (present members metadata) := by
  have hany : members.any isUndefined = true :=
    List.any_eq_true.mpr ⟨.cls .undefined, hundefined, rfl⟩
  unfold withoutUndefined?
  rw [hpeel]
  simp only [hany, if_true]
  rfl

/-- Whether the marker is found depends on what is behind qualifiers and metadata alone. -/
theorem withoutUndefined?_eq_none_iff {t : Annotation} : t.withoutUndefined? = none ↔
    ∀ style members, t.peel.1 = union style members → .cls .undefined ∉ members := by
  have hmarker (members : List Annotation) :
      members.any isUndefined = true ↔ .cls .undefined ∈ members := by
    rw [List.any_eq_true]
    constructor
    · rintro ⟨member, hmember, hundefined⟩
      cases member with
      | cls ref =>
        obtain rfl : ref = .undefined := by simpa [isUndefined] using hundefined
        exact hmember
      | _ => cases hundefined
    · intro hmember
      exact ⟨_, hmember, rfl⟩
  unfold withoutUndefined?
  split
  · rename_i style members metadata hpeel
    simp [hpeel, ← hmarker]
  · rename_i hother
    refine iff_of_true rfl fun style members hpeel ↦ ?_
    exact absurd (Prod.ext hpeel rfl : t.peel = (union style members, t.peel.2)) (hother _ _ _)

/-- Wrappers hide the marker or leave it where it is. -/
theorem Wraps.withoutUndefined?_eq_none {t u : Annotation} (h : Wraps t u)
    (ht : t.withoutUndefined? = none) : u.withoutUndefined? = none := by
  rw [withoutUndefined?_eq_none_iff] at ht ⊢
  induction h with
  | self => exact ht
  | synonym | newType =>
    intro style members hpeel
    cases hpeel
  | qualified hqualifier h ih =>
    intro style members hpeel
    rw [peel, if_pos hqualifier] at hpeel
    exact ih style members hpeel
  | annotated hplain h ih => exact ih
  | joined hplain hinner h ih => exact ih

theorem Wraps.isQualifiedBy_classVar {t u : Annotation} (h : Wraps t u)
    (ht : t.isQualifiedBy .classVar = false) : u.isQualifiedBy .classVar = false := by
  cases h with
  | self => exact ht
  | @qualified qualifier hqualifier _ h =>
    cases qualifier <;> first | rfl | cases hqualifier
  | _ => rfl

/-- A union is no class variable. -/
theorem isQualifiedBy_of_peel {t : Annotation} {style : UnionStyle} {members : List Annotation}
    (h : t.peel.1 = union style members) : t.isQualifiedBy .classVar = false := by
  cases t with
  | qualified qualifier inner =>
    cases qualifier with
    | classVar => cases h
    | _ => rfl
  | _ => rfl

theorem asType_asType (t : Annotation) : t.asType.asType = t.asType := by
  fun_cases asType t <;> simp_all [asType, noneType]

/-- Resolution does not tell the absent value from its type. -/
theorem resolve_asType (t : Annotation) (reading : Reading) :
    t.asType.resolve reading = t.resolve reading := by
  unfold resolve
  rw [asType_asType]
  -- Only a text has another form as a type, which stands in the same position.
  cases t with
  | value v => fun_cases asType (value v) <;> rfl
  | _ => rfl

end Annotation

/-! ## Declarations that differ in one member -/

/-- Statements that are the same but for the type and the right side of a name known as `name`. -/
inductive Statement.SameElsewhere (known : String → String) (name : String) :
    Statement → Statement → Prop where
  | refl (statement : Statement) : SameElsewhere known name statement statement
  | annotated {own : String} (hown : known own = name) (type type' : Annotation)
      (initial initial' : Initial) :
      SameElsewhere known name (.annotated own type initial) (.annotated own type' initial')

namespace Declaration

variable {d d' : Declaration} {name : String}

/-- Declarations that differ in one member at most, and in flavour and bases. -/
structure SameElsewhere (name : String) (d d' : Declaration) : Prop where
  name_eq : d'.name = d.name
  doc : d'.doc = d.doc
  source : d'.source = d.source
  body : List.Forall₂ (Statement.SameElsewhere d.knownAs name) d.body d'.body

namespace SameElsewhere

theorem knownAs_eq (h : SameElsewhere name d d') : d'.knownAs = d.knownAs := by
  funext own
  rw [knownAs, knownAs, h.name_eq]

theorem ownAnnotations (h : SameElsewhere name d d') :
    Dict.Related (fun own t t' ↦ own ≠ name → t' = t) d.ownAnnotations d'.ownAnnotations := by
  unfold Declaration.ownAnnotations
  rw [h.knownAs_eq]
  refine .ofList (List.rel_filterMap (fun statement statement' hstatement ↦ ?_) h.body)
  cases hstatement with
  | refl =>
    cases statement with
    | annotated => exact .some ⟨rfl, fun _ ↦ rfl⟩
    | _ => exact .none
  | annotated hown => exact .some ⟨rfl, fun hother ↦ absurd hown hother⟩

theorem initial?_eq (h : SameElsewhere name d d') {own : String} (hown : own ≠ name) :
    d'.initial? own = d.initial? own := by
  unfold initial?
  rw [h.knownAs_eq]
  refine findSome?_eq_of_forall₂ (List.rel_reverse h.body) fun statement statement' hstatement ↦ ?_
  cases hstatement with
  | refl => rfl
  | annotated hname type type' initial initial' =>
    have hother : d.knownAs _ ≠ own := fun heq ↦ hown (heq.symm.trans hname)
    cases initial <;> cases initial' <;> simp [hother]

theorem contains_ownAttributes (h : SameElsewhere name d d') (hflavour : d'.flavour = d.flavour)
    {own : String} (hown : own ≠ name) :
    d'.ownAttributes.contains own = d.ownAttributes.contains own := by
  have hnames : own ∈ (d'.body.flatMap (statementNames d.flavour)).map d.knownAs ↔
      own ∈ (d.body.flatMap (statementNames d.flavour)).map d.knownAs := by
    have hbody := h.body
    generalize d.body = body at hbody ⊢
    generalize d'.body = body' at hbody ⊢
    induction hbody with
    | nil => rfl
    | cons hfirst _ ih =>
      rw [List.flatMap_cons, List.flatMap_cons, List.map_append, List.map_append, List.mem_append,
        List.mem_append]
      refine or_congr ?_ ih
      cases hfirst with
      | refl statement => rfl
      | annotated hname type type' initial initial' =>
        simp only [statementNames]
        split <;> split <;> simp [hname, hown]
  rw [Bool.eq_iff_iff, List.contains_iff_mem, List.contains_iff_mem, ownAttributes, ownAttributes,
    List.mem_append, List.mem_append, hflavour, h.knownAs_eq, hnames]

end SameElsewhere

end Declaration

/-! ## Names that a struct does not require -/

namespace TypeModel

/-- The schema of a struct requires no name whose members are all optional. -/
theorem notMem_required {τ ι : Type} [BEq ι] {model : TypeModel τ ι} {type : τ} {node : Node}
    {name : String} {required : List String} (hobject : model.classify type = .ok .object)
    (hoptional : ∀ members, (model.members type).outcome = .ok members →
      ∀ member ∈ members, member.name = name → member.optional = true)
    (hnode : (model.compile type).outcome = .ok node)
    (hrequired : Dict.get? "required" node = some (.strings required)) : name ∉ required := by
  obtain ⟨-, -, hnode⟩ := Logged.bind_eq_ok_iff.mp hnode
  cases hdepth : model.depth type with
  | zero =>
    rw [hdepth] at hnode
    cases hnode
  | succ depth =>
    rw [hdepth] at hnode
    obtain ⟨tags, category, base, -, hcategory, -, hbase, hpass⟩ :=
      compileUnder_succ_eq_ok_iff.mp hnode
    obtain rfl := Except.ok.inj (hcategory.symm.trans hobject)
    obtain ⟨gate, hgate⟩ := hbase.exists_gate
    rw [Constraint.get?_applied_builtKey (by decide) hgate hpass] at hrequired
    cases hbase with
    | @object members properties hmembers hproperties =>
      rw [structNode_eq, get?_objectNode_required] at hrequired
      split at hrequired
      · cases hrequired
      · obtain rfl := List.map_injective_iff.mpr (fun _ _ ↦ Json.str.inj)
          (Json.arr.inj (Option.some.inj hrequired))
        intro hname
        obtain ⟨property, hproperty, rfl⟩ := List.mem_map.mp hname
        obtain ⟨hproperty, hrequires⟩ := List.mem_filter.mp hproperty
        obtain ⟨built, hbuilt, rfl⟩ := List.mem_filterMap.mp hproperty
        obtain ⟨member, hmember, hbuilt⟩ := Outcome.exists_of_mem_right hproperties hbuilt
        cases hbuilt with
        | kept _ _ hstands _ _ =>
          rw [isOptional, hoptional members hmembers member hmember rfl, if_pos rfl] at hstands
          cases hstands
          cases hrequires

end TypeModel

namespace Module

section

variable [Environment] {m n n₁ n₂ : Module} {qualname name : String} {d d₁ d₂ : Declaration} {c c₁ c₂ : Class}
  {written written' rest : Annotation}

/-- What is recorded for the other names is the same. -/
theorem Redeclared.recordedAnnotations (h : Redeclared m qualname d₁ d₂ n₁ n₂)
    (hbody : d₁.SameElsewhere name d₂) :
    Dict.Related (fun own t t' ↦ own ≠ name → t' = t) (m.recordedAnnotations (m.completed d₁))
      (m.recordedAnnotations (m.completed d₂)) := by
  have hown : Dict.Related (fun own t t' ↦ own ≠ name → t' = t) (m.completed d₁).ownAnnotations
      (m.completed d₂).ownAnnotations := hbody.ownAnnotations
  unfold Module.recordedAnnotations
  rw [h.completed_flavour]
  split
  · unfold typedKeys
    rw [h.completed_bases]
    exact (Dict.related_refl (fun _ _ _ ↦ rfl) _).update
      (hown.map_snd _ _ fun own t t' hsame hother ↦ by rw [hsame hother])
  · exact hown

omit [Environment] in
theorem nodup_keys_recordedAnnotations (m : Module) (d : Declaration) :
    (Dict.keys (m.recordedAnnotations d)).Nodup := by
  unfold recordedAnnotations
  split
  · exact Dict.nodup_keys_update (Dict.nodup_keys_ofList _) _
  · exact Dict.nodup_keys_ofList _

omit [Environment] in
/-- What a body annotates a name with is recorded for the class, as a type or as it was written. -/
theorem get?_recordedAnnotations (m : Module) (h : Dict.get? name d.ownAnnotations = some written) :
    ∃ t, Dict.get? name (m.recordedAnnotations d) = some t ∧
      ∀ reading, t.resolve reading = written.resolve reading := by
  unfold recordedAnnotations
  split
  · refine ⟨written.asType, ?_, written.resolve_asType⟩
    have hnodup : (Dict.keys (d.ownAnnotations.map fun entry ↦ (entry.1, entry.2.asType))).Nodup := by
      rw [Dict.keys_map_snd]
      exact Dict.nodup_keys_ofList _
    rw [typedKeys, Dict.get?_update_of_nodup hnodup, Dict.get?_map_snd, h]
    rfl
  · exact ⟨written, h, fun _ ↦ rfl⟩

/-- A key that is not the differing one is optional in both declarations, or in none. -/
theorem Redeclared.contains_typedOptionalKeys (h : Redeclared m qualname d₁ d₂ n₁ n₂)
    (hbody : d₁.SameElsewhere name d₂) {own : String} (hown : own ≠ name) (total : Bool) :
    (m.typedOptionalKeys (m.completed d₂) total).contains own =
      (m.typedOptionalKeys (m.completed d₁) total).contains own := by
  have hkeys : own ∈ (d₂.ownAnnotations.filter fun entry ↦ isOptionalKey total entry.2).map Prod.fst ↔
      own ∈ (d₁.ownAnnotations.filter fun entry ↦ isOptionalKey total entry.2).map Prod.fst := by
    have hcons (entry : String × Annotation) (rest : Dict Annotation) :
        own ∈ ((entry :: rest).filter fun entry ↦ isOptionalKey total entry.2).map Prod.fst ↔
          (own = entry.1 ∧ isOptionalKey total entry.2 = true) ∨
            own ∈ (rest.filter fun entry ↦ isOptionalKey total entry.2).map Prod.fst := by
      cases hkey : isOptionalKey total entry.2 <;> simp [hkey]
    have hrelated := hbody.ownAnnotations
    generalize d₁.ownAnnotations = own₁ at hrelated ⊢
    generalize d₂.ownAnnotations = own₂ at hrelated ⊢
    induction hrelated with
    | nil => rfl
    | cons hentry _ ih =>
      rw [hcons, hcons, hentry.1]
      refine or_congr (and_congr_right fun hkey ↦ ?_) ih
      rw [hentry.2 (hkey ▸ hown)]
  rw [Bool.eq_iff_iff, List.contains_iff_mem, List.contains_iff_mem, typedOptionalKeys,
    typedOptionalKeys, List.mem_append, List.mem_append, h.completed_bases]
  exact or_congr_right hkeys

/-- What a declaration annotates a name with is the hint of that name. -/
theorem Declared.get?_hints (hc : Declared m qualname d c) {ref own : ClassRef} {tail : List ClassRef}
    {hints : Dict Annotation} {t : Annotation} (hclass : n.class? own = some c)
    (hline : n.linear ref = own :: tail) (hhints : n.hints ref = .ok hints)
    (hwritten : Dict.get? name d.ownAnnotations = some written)
    (ht : written.resolve (n.reading own) = .ok t) : Dict.get? name hints = some t := by
  have hannotations : n.annotations own = m.recordedAnnotations (m.completed d) := by
    rw [annotations, hclass]
    exact hc.annotations
  obtain ⟨u, hu, hmeaning⟩ := m.get?_recordedAnnotations (d := m.completed d) hwritten
  refine get?_hints_of_own hline ?_ hhints (?_ : _ = some u) ((hmeaning _).trans ht)
  · rw [hannotations]
    exact m.nodup_keys_recordedAnnotations _
  · rw [hannotations, hu]

/-- A class has a member of the given name as an optional one, if it has it at all. -/
def DeclaresOptional (n : Module) (ref : ClassRef) (name : String) : Prop :=
  if n.isTypedDict ref then name ∈ n.optionalKeys ref
  else
    match n.dataFields? ref with
    | some fields => ∀ field, (name, field) ∈ fields → field.optional = true
    | none => n.hasAttribute ref name = true

/-- The name and the family of a reference do not matter. -/
theorem declaresOptional_declared {number : Nat} (hclass : n.classes[number]? = some c)
    {qualname qualname' : String} {family family' : Family} :
    n.DeclaresOptional (.declared number qualname family) name ↔
      n.DeclaresOptional (.declared number qualname' family') name := by
  have hdict : n.isTypedDict (.declared number qualname family) =
      n.isTypedDict (.declared number qualname' family') := rfl
  have hkeys : n.optionalKeys (.declared number qualname family) =
      n.optionalKeys (.declared number qualname' family') := rfl
  unfold DeclaresOptional
  rw [hdict, hkeys, dataFields?_declared hclass, dataFields?_declared hclass, hasAttribute,
    hasAttribute, linear_declared hclass, linear_declared hclass]

theorem Declared.isTypedDict_eq (hc : Declared m qualname d c) {number : Nat}
    (hclass : n.classes[number]? = some c) {qualname' : String} {family : Family} :
    n.isTypedDict (.declared number qualname' family) =
      ((m.completed d).flavour matches .typedDict _) := by
  rw [isTypedDict, class?, hclass, ← hc.declaration]
  rfl

/-- A key is optional if a qualifier of its type says so, or if the keys are not required and no
qualifier says otherwise. -/
theorem Declares.declaresOptional_of_key (h : m.Declares qualname d n) {total : Bool}
    (hflavour : (m.completed d).flavour = .typedDict total)
    (hwritten : Dict.get? name d.ownAnnotations = some written)
    (hkey : isOptionalKey total written = true) : n.DeclaresOptional (m.nextRef qualname d) name := by
  obtain ⟨c, hclass, hc⟩ := h.exists_class
  have hdict : n.isTypedDict (m.nextRef qualname d) = true := by
    rw [nextRef, hc.isTypedDict_eq hclass, hflavour]
  have hkeys : n.optionalKeys (m.nextRef qualname d) = m.typedOptionalKeys (m.completed d) total := by
    rw [nextRef, optionalKeys, class?, hclass, Option.map_some, Option.getD_some, hc.optionalKeys,
      hflavour]
  unfold DeclaresOptional
  rw [if_pos hdict, hkeys, typedOptionalKeys]
  refine List.mem_append_right _ (List.mem_map.mpr ⟨(name, written), ?_, rfl⟩)
  exact List.mem_filter.mpr ⟨Dict.mem_of_get?_eq_some hwritten, hkey⟩

/-- A field of a dataclass is optional if its right side gives it a default. -/
theorem Declares.declaresOptional_of_field (h : m.Declares qualname d n) {keywordOnly : Bool}
    (hflavour : (m.completed d).flavour = .dataclass keywordOnly)
    (hwritten : Dict.get? name d.ownAnnotations = some written) {initial : Initial}
    (hinitial : d.initial? name = some initial) (hdefault : initial.isOptional = true) :
    n.DeclaresOptional (m.nextRef qualname d) name := by
  obtain ⟨c, hclass, hc⟩ := h.exists_class
  obtain ⟨fields, hfields, hdata⟩ := hc.dataFields keywordOnly hflavour
  obtain ⟨tail, hline⟩ := exists_tail_of_linearFor hc.linear
  have hdict : n.isTypedDict (m.nextRef qualname d) = false := by
    rw [nextRef, hc.isTypedDict_eq hclass, hflavour]
  have hfound : n.dataFields? (m.nextRef qualname d) = some fields := by
    unfold dataFields?
    rw [nextRef, linear_declared hclass, hline, List.findSome?_cons, nextRef, class?, hclass,
      Option.bind_some, hfields]
  have hkeys : ((m.ownDataFields (c.linear.drop 1) keywordOnly (m.completed d)).map Prod.fst).Nodup := by
    unfold ownDataFields
    rw [List.map_map]
    exact Dict.nodup_keys_ofList _
  have hown : (name, (⟨m.roleOf written, written, true, keywordOnly⟩ : DataField)) ∈
      m.ownDataFields (c.linear.drop 1) keywordOnly (m.completed d) := by
    have hsame : (m.completed d).initial? name = some initial := hinitial
    refine List.mem_map.mpr ⟨(name, written), Dict.mem_of_get?_eq_some hwritten, ?_⟩
    simp only [hsame, hdefault]
  unfold DeclaresOptional
  rw [hdict, if_neg Bool.false_ne_true, hfound]
  intro field hlisted
  rw [eq_of_dataFieldsFor hdata] at hlisted
  have hfield := Dict.get?_eq_some_of_mem
    (Dict.nodup_keys_update (Dict.nodup_keys_ofList _) _) hlisted
  rw [Dict.get?_update_of_nodup hkeys, Dict.get?_eq_some_of_mem hkeys hown, Option.some_or] at hfield
  rw [← Option.some.inj hfield]

/-- A member of a class of no particular kind is optional if the class binds its name. -/
theorem Declares.declaresOptional_of_attribute (h : m.Declares qualname d n)
    (hflavour : (m.completed d).flavour = .plain)
    (hfields : n.dataFields? (m.nextRef qualname d) = none)
    (hbound : name ∈ (m.completed d).ownAttributes) :
    n.DeclaresOptional (m.nextRef qualname d) name := by
  obtain ⟨c, hclass, hc⟩ := h.exists_class
  obtain ⟨tail, hline⟩ := exists_tail_of_linearFor hc.linear
  have hdict : n.isTypedDict (m.nextRef qualname d) = false := by
    rw [nextRef, hc.isTypedDict_eq hclass, hflavour]
  have hown : (n.ownAttributes (m.nextRef qualname d)).contains name = true := by
    rw [nextRef, ownAttributes, class?, hclass, List.contains_iff_mem]
    change name ∈ c.declaration.ownAttributes
    rw [hc.declaration]
    exact hbound
  unfold DeclaresOptional
  rw [hdict, if_neg Bool.false_ne_true, hfields]
  change n.hasAttribute _ _ = true
  rw [hasAttribute, inheritsAttribute, nextRef, linear_declared hclass, hline, List.any_cons, hown,
    Bool.true_or, Bool.or_true]

/-- A member is declared with a type that means a union with the marker of absent values; `rest` is
what remains of it. -/
structure MayBeAbsent (m : Module) (reading : Annotation.Reading) (d : Declaration) (name : String)
    (written rest : Annotation) : Prop where
  annotation : Dict.get? name d.ownAnnotations = some written
  role : m.roleOf written = .stored
  union : ∃ t style members metadata, written.resolve reading = .ok t ∧
    t.peel = (.union style members, metadata) ∧ .cls .undefined ∈ members ∧
      rest = .present members metadata

/-- A member is declared with a type that means a given one, in wrappers that document nothing. -/
structure IsDeclared (m : Module) (reading : Annotation.Reading) (d : Declaration) (name : String)
    (written type : Annotation) : Prop where
  annotation : Dict.get? name d.ownAnnotations = some written
  role : m.roleOf written = .stored
  wraps : ∃ t, written.resolve reading = .ok t ∧ Annotation.Wraps type t

/-! ## Members under the hints -/

omit [Environment] in
theorem name_member (own : String) (t : Annotation) (optional : Bool) (doc : Option String) :
    (member own t optional doc).name = own := by
  unfold member
  split <;> rfl

omit [Environment] in
/-- A type that may be absent makes a member optional. -/
theorem optional_member {own : String} {t : Annotation} (h : t.withoutUndefined? = some rest)
    (optional : Bool) (doc : Option String) : (member own t optional doc).optional = true := by
  unfold member
  rw [h]

/-- A member whose hint may be absent is reported as an optional one. -/
theorem optional_of_mem_reported {ref : ClassRef} {hints : Dict Annotation} {docs : Dict String}
    {t : Annotation} {found : Member Annotation} (hnodup : (Dict.keys hints).Nodup)
    (ht : Dict.get? name hints = some t) (hrest : t.withoutUndefined? = some rest)
    (hfound : found ∈ n.reported ref hints docs) (hname : found.name = name) :
    found.optional = true := by
  have hentry {own : String} {u : Annotation} {optional : Bool} {doc : Option String}
      (hown : (member own u optional doc).name = name) (hu : own = name → u = t) :
      (member own u optional doc).optional = true := by
    rw [name_member] at hown
    rw [hu hown]
    exact optional_member hrest optional doc
  have htype {own : String} {u : Annotation} (hlisted : (own, u) ∈ hints) (hown : own = name) : u = t := by
    subst hown
    exact Option.some.inj ((Dict.get?_eq_some_of_mem hnodup hlisted).symm.trans ht)
  unfold reported at hfound
  split at hfound
  · obtain ⟨⟨own, u⟩, hlisted, rfl⟩ := List.mem_map.mp hfound
    exact hentry hname (htype hlisted)
  · split at hfound
    · obtain ⟨⟨own, field⟩, -, rfl⟩ := List.mem_map.mp hfound
      refine hentry hname fun hown ↦ ?_
      rw [hown, ht, Option.getD_some]
    · obtain ⟨⟨own, u⟩, hlisted, rfl⟩ := List.mem_map.mp hfound
      exact hentry hname (htype (List.mem_of_mem_filter hlisted))

/-- Hints that are the same but under one name. There the one type may be absent, and the other one is
what remains of it. -/
structure AbsentHint (name : String) (hints₁ hints₂ : Dict Annotation) : Prop where
  related : Dict.Related (fun own t t' ↦ own ≠ name → t' = t) hints₁ hints₂
  nodup : (Dict.keys hints₁).Nodup
  hint : ∃ t t' rest, Dict.get? name hints₁ = some t ∧ Dict.get? name hints₂ = some t' ∧
    t.withoutUndefined? = some rest ∧ t'.withoutUndefined? = none ∧ Annotation.Akin rest t' ∧
      t.isQualifiedBy .classVar = false ∧ t'.isQualifiedBy .classVar = false

namespace AbsentHint

variable {hints₁ hints₂ : Dict Annotation} {docs : Dict String}

omit [Environment] in
/-- Under each name the members correspond, provided that the differing one is optional. -/
theorem related_member (h : AbsentHint name hints₁ hints₂) :
    Dict.Related (fun own t t' ↦ t'.isQualifiedBy .classVar = t.isQualifiedBy .classVar ∧
      ∀ optional optional' doc, (own ≠ name → optional' = optional) → (own = name → optional' = true) →
        Member.Related Annotation.Akin (member own t optional doc) (member own t' optional' doc))
      hints₁ hints₂ := by
  refine (h.related.found h.nodup).imp fun entry entry' hentry ↦ ?_
  obtain ⟨hkey, hsame, hfound, hfound'⟩ := hentry
  refine ⟨hkey, ?_⟩
  by_cases hown : entry.1 = name
  · obtain ⟨t, t', rest, ht, ht', hrest, hnone, hakin, hshared, hshared'⟩ := h.hint
    rw [hown] at hfound hfound'
    obtain rfl := Option.some.inj (hfound.symm.trans ht)
    obtain rfl := Option.some.inj (hfound'.symm.trans ht')
    refine ⟨hshared'.trans hshared.symm, fun optional optional' doc _ hname ↦ ?_⟩
    obtain rfl := hname hown
    unfold member
    rw [hrest, hnone]
    exact ⟨rfl, hakin, rfl, rfl⟩
  · rw [hsame hown]
    refine ⟨rfl, fun optional optional' doc hother _ ↦ ?_⟩
    rw [hother hown]
    exact ⟨rfl, .refl _, rfl, rfl⟩

omit [Environment] in
/-- In a typed dictionary the key that may be absent is one that is not required. -/
theorem forall₂_keyMembers (h : AbsentHint name hints₁ hints₂) {keys₁ keys₂ : List String}
    (hkeys : ∀ own, own ≠ name → keys₂.contains own = keys₁.contains own) (hname : name ∈ keys₂) :
    List.Forall₂ (Member.Related Annotation.Akin) (keyMembers keys₁ hints₁ docs)
      (keyMembers keys₂ hints₂ docs) := by
  refine Module.forall₂_keyMembers (h.related_member.imp fun entry entry' hentry ↦ ?_)
  obtain ⟨hkey, -, hmember⟩ := hentry
  refine ⟨hkey, fun doc ↦ hmember _ _ doc (hkeys _) fun hown ↦ ?_⟩
  rw [hown]
  exact List.contains_iff_mem.mpr hname

omit [Environment] in
/-- In a dataclass it is a field with a default. -/
theorem forall₂_fieldMembers (h : AbsentHint name hints₁ hints₂) {fields₁ fields₂ : Dict DataField}
    (hfields : Dict.Related (fun own field field' ↦ field'.role = field.role ∧
      (own ≠ name → field' = field)) fields₁ fields₂)
    (hname : ∀ field, (name, field) ∈ fields₂ → field.optional = true) :
    List.Forall₂ (Member.Related Annotation.Akin) (fieldMembers fields₁ hints₁ docs)
      (fieldMembers fields₂ hints₂ docs) := by
  refine Module.forall₂_fieldMembers (hfields.mem.imp fun entry entry' hentry ↦ ?_)
  obtain ⟨hkey, ⟨hrole, hsame⟩, -, hlisted⟩ := hentry
  refine ⟨hkey, hrole, fun _ doc ↦ ?_⟩
  have hfound := h.related_member.get? entry.1
  cases hleft : Dict.get? entry.1 hints₁ with
  | none =>
    have hown : entry.1 ≠ name := by
      rintro rfl
      obtain ⟨t, -, -, ht, -⟩ := h.hint
      rw [hleft] at ht
      cases ht
    rw [hleft] at hfound
    cases hright : Dict.get? entry.1 hints₂ with
    | some t' => simp [hright] at hfound
    | none =>
      rw [hsame hown]
      exact ⟨rfl, .refl _, rfl, rfl⟩
  | some t =>
    rw [hleft] at hfound
    cases hright : Dict.get? entry.1 hints₂ with
    | none => simp [hright] at hfound
    | some t' =>
      rw [hright, Option.rel_some_some] at hfound
      exact hfound.2 _ _ doc (fun hown ↦ by rw [hsame hown]) fun hown ↦ hname _ (hown ▸ hlisted)

/-- In any other class it is an attribute with a value. -/
theorem forall₂_attributeMembers (h : AbsentHint name hints₁ hints₂) {ref : ClassRef}
    (hattributes : ∀ own, own ≠ name → n₂.hasAttribute ref own = n₁.hasAttribute ref own)
    (hname : n₂.hasAttribute ref name = true) :
    List.Forall₂ (Member.Related Annotation.Akin) (n₁.attributeMembers ref hints₁ docs)
      (n₂.attributeMembers ref hints₂ docs) := by
  refine Module.forall₂_attributeMembers (h.related_member.imp fun entry entry' hentry ↦ ?_)
  obtain ⟨hkey, hshared, hmember⟩ := hentry
  refine ⟨hkey, hshared, fun doc ↦ hmember _ _ doc (hattributes _) fun hown ↦ ?_⟩
  rw [hown]
  exact hname

end AbsentHint

section

variable (h : Redeclared m qualname d₁ d₂ n₁ n₂)
  (habsent : MayBeAbsent m (n₁.reading (m.nextRef qualname d₁)) d₁ name written rest)
  (hdeclared : IsDeclared m (n₂.reading (m.nextRef qualname d₁)) d₂ name written' rest)

include h habsent hdeclared

/-- What the hints say about the differing member. -/
theorem absentHint (honce : rest.withoutUndefined? = none) (hnone : rest.isNoneValue = false)
    (hclassVar : rest.isQualifiedBy .classVar = false) {qualname' : String} {family : Family}
    {hints₁ hints₂ : Dict Annotation}
    (hhints₁ : n₁.hints (.declared m.classes.length qualname' family) = .ok hints₁)
    (hhints₂ : n₂.hints (.declared m.classes.length qualname' family) = .ok hints₂)
    (hrelated : Dict.Related (fun own t t' ↦ own ≠ name → t' = t) hints₁ hints₂) :
    AbsentHint name hints₁ hints₂ := by
  obtain ⟨tail, c₁, c₂, hc₁, hc₂, htwins⟩ := h.exists_twins
  obtain ⟨t, style, members, metadata, ht, hpeel, hundefined, rfl⟩ := habsent.union
  obtain ⟨t', ht', hwraps⟩ := hdeclared.wraps
  have hfound₁ : Dict.get? name hints₁ = some t :=
    hc₁.get?_hints htwins.class?_own.1 (htwins.linear_left _ _) hhints₁ habsent.annotation ht
  have hfound₂ : Dict.get? name hints₂ = some t' :=
    hc₂.get?_hints htwins.class?_own.2 (htwins.linear_right _ _) hhints₂ hdeclared.annotation ht'
  refine ⟨hrelated, nodup_keys_hints hhints₁, t, t', _, hfound₁, hfound₂,
    Annotation.withoutUndefined?_of_peel hpeel hundefined, hwraps.withoutUndefined?_eq_none honce,
    .of_strip (hwraps.strip_eq hnone) (hwraps.outerDoc?_eq hnone), ?_,
    hwraps.isQualifiedBy_classVar hclassVar⟩
  exact Annotation.isQualifiedBy_of_peel (by rw [hpeel])

variable (hbody : d₁.SameElsewhere name d₂)

include hbody

/-- The hints are the same but under the differing name, if all other annotations mean the same. -/
theorem related_hints_of_absent
    (hothers : ∀ entry ∈ n₁.annotations (m.nextRef qualname d₁), entry.1 ≠ name →
      entry.2.resolve (n₂.reading (m.nextRef qualname d₁)) =
        entry.2.resolve (n₁.reading (m.nextRef qualname d₁))) (qualname' : String) (family : Family) :
    Outcome.Related (Dict.Related fun own t t' ↦ own ≠ name → t' = t)
      (n₁.hints (.declared m.classes.length qualname' family))
      (n₂.hints (.declared m.classes.length qualname' family)) := by
  obtain ⟨tail, c₁, c₂, hc₁, hc₂, htwins⟩ := h.exists_twins
  refine htwins.related_hints qualname' family (fun _ _ _ ↦ rfl) ?_
  have hrecorded := (h.recordedAnnotations hbody).found (m.nodup_keys_recordedAnnotations _)
  rw [← hc₁.annotations, ← hc₂.annotations] at hrecorded
  refine related_resolveEntries hrecorded fun own t t' hentry ↦ ?_
  obtain ⟨hsame, hleft, hright⟩ := hentry
  by_cases hown : own = name
  · subst hown
    obtain ⟨u, hu, hmeaning⟩ := m.get?_recordedAnnotations (d := m.completed d₁) habsent.annotation
    obtain ⟨u', hu', hmeaning'⟩ := m.get?_recordedAnnotations (d := m.completed d₂) hdeclared.annotation
    obtain ⟨v, -, -, -, hv, -⟩ := habsent.union
    obtain ⟨v', hv', -⟩ := hdeclared.wraps
    rw [hc₁.annotations, hu] at hleft
    rw [hc₂.annotations, hu'] at hright
    cases hleft
    cases hright
    rw [hmeaning, hmeaning', hv, hv']
    exact .ok fun hother ↦ absurd rfl hother
  · rw [hsame hown, hothers (own, t) ?_ hown]
    · exact .refl (fun _ _ ↦ rfl) _
    · rw [annotations, htwins.class?_own.1]
      exact Dict.mem_of_get?_eq_some hleft

/-- The fields of a dataclass differ in the type of one stored field and in whether it is optional. -/
theorem related_dataFields (qualname' : String) (family : Family) :
    Option.Rel (Dict.Related fun own field field' ↦ field'.role = field.role ∧
        (own ≠ name → field' = field))
      (n₁.dataFields? (.declared m.classes.length qualname' family))
      (n₂.dataFields? (.declared m.classes.length qualname' family)) := by
  obtain ⟨tail, c₁, c₂, hc₁, hc₂, htwins⟩ := h.exists_twins
  rw [htwins.dataFields?_left, htwins.dataFields?_right]
  by_cases hflavour : ∃ keywordOnly, (m.completed d₁).flavour = .dataclass keywordOnly
  · obtain ⟨keywordOnly, hflavour⟩ := hflavour
    obtain ⟨fields₁, hfields₁, hown₁⟩ := hc₁.dataFields keywordOnly hflavour
    obtain ⟨fields₂, hfields₂, hown₂⟩ :=
      hc₂.dataFields keywordOnly (h.completed_flavour.trans hflavour)
    rw [hfields₁, hfields₂, Option.some_or, Option.some_or]
    rw [htwins.line₁] at hown₁
    rw [htwins.line₂] at hown₂
    rw [eq_of_dataFieldsFor hown₁, eq_of_dataFieldsFor hown₂]
    refine .some ((Dict.related_refl (fun _ _ ↦ ⟨rfl, fun _ ↦ rfl⟩) _).update ?_)
    have hown := hbody.ownAnnotations.found (Dict.nodup_keys_ofList _)
    unfold ownDataFields
    rw [Dict.Related, List.forall₂_map_left_iff, List.forall₂_map_right_iff]
    refine hown.imp fun entry entry' hentry ↦ ?_
    obtain ⟨own, t⟩ := entry
    obtain ⟨own', t'⟩ := entry'
    obtain ⟨rfl, hsame, hleft, hright⟩ := hentry
    refine ⟨rfl, ?_, fun hother ↦ ?_⟩
    · by_cases hname : own' = name
      · subst hname
        obtain rfl := Option.some.inj (hleft.symm.trans habsent.annotation)
        obtain rfl := Option.some.inj (hright.symm.trans hdeclared.annotation)
        exact hdeclared.role.trans habsent.role.symm
      · exact congrArg m.roleOf (hsame hname)
    · obtain rfl := hsame hother
      have hinitial : (m.completed d₂).initial? own' = (m.completed d₁).initial? own' :=
        hbody.initial?_eq hother
      dsimp only
      rw [hinitial]
  · have hnone (d : Declaration) (c : Class) (hc : Declared m qualname d c)
        (hsame : (m.completed d).flavour = (m.completed d₁).flavour) : c.dataFields = none :=
      hc.noDataFields fun keywordOnly heq ↦ hflavour ⟨keywordOnly, hsame.symm.trans heq⟩
    rw [hnone d₁ c₁ hc₁ rfl, hnone d₂ c₂ hc₂ h.completed_flavour, Option.none_or]
    cases tail.findSome? fun base ↦ (n₁.class? base).bind Class.dataFields with
    | none => exact .none
    | some fields => exact .some (Dict.related_refl (fun _ _ ↦ ⟨rfl, fun _ ↦ rfl⟩) _)

/-- The members of the class correspond in both modules. -/
theorem forall₂_reported_of_absent (hoptional : n₂.DeclaresOptional (m.nextRef qualname d₁) name)
    {qualname' : String} {family : Family} {hints₁ hints₂ : Dict Annotation} {docs : Dict String}
    (hhint : AbsentHint name hints₁ hints₂) :
    List.Forall₂ (Member.Related Annotation.Akin)
      (n₁.reported (.declared m.classes.length qualname' family) hints₁ docs)
      (n₂.reported (.declared m.classes.length qualname' family) hints₂ docs) := by
  obtain ⟨tail, c₁, c₂, hc₁, hc₂, htwins⟩ := h.exists_twins
  have hdict₁ : n₁.isTypedDict (.declared m.classes.length qualname' family) =
      ((m.completed d₁).flavour matches .typedDict _) := hc₁.isTypedDict_eq htwins.class₁
  have hdict₂ : n₂.isTypedDict (.declared m.classes.length qualname' family) =
      ((m.completed d₁).flavour matches .typedDict _) := by
    rw [hc₂.isTypedDict_eq htwins.class₂, h.completed_flavour]
  replace hoptional : n₂.DeclaresOptional (.declared m.classes.length qualname' family) name :=
    (declaresOptional_declared htwins.class₂).mp hoptional
  unfold DeclaresOptional at hoptional
  unfold reported
  rw [hdict₂] at hoptional
  rw [hdict₁, hdict₂]
  by_cases htyped : ∃ total, (m.completed d₁).flavour = .typedDict total
  · obtain ⟨total, htyped⟩ := htyped
    simp only [htyped, if_true] at hoptional ⊢
    refine hhint.forall₂_keyMembers (fun own hown ↦ ?_) hoptional
    have hkeys₁ : n₁.optionalKeys (.declared m.classes.length qualname' family) =
        m.typedOptionalKeys (m.completed d₁) total := by
      rw [optionalKeys, class?, htwins.class₁, Option.map_some, Option.getD_some, hc₁.optionalKeys,
        htyped]
    have hkeys₂ : n₂.optionalKeys (.declared m.classes.length qualname' family) =
        m.typedOptionalKeys (m.completed d₂) total := by
      rw [optionalKeys, class?, htwins.class₂, Option.map_some, Option.getD_some, hc₂.optionalKeys,
        h.completed_flavour, htyped]
    rw [hkeys₁, hkeys₂]
    exact h.contains_typedOptionalKeys hbody hown total
  · have hother : ((m.completed d₁).flavour matches .typedDict _) = false := by
      cases hflavour : (m.completed d₁).flavour with
      | typedDict total => exact absurd ⟨total, hflavour⟩ htyped
      | _ => rfl
    rw [hother, if_neg Bool.false_ne_true] at hoptional
    rw [hother, if_neg Bool.false_ne_true, if_neg Bool.false_ne_true]
    have hfields := related_dataFields h habsent hdeclared hbody qualname' family
    revert hoptional hfields
    generalize n₁.dataFields? (.declared m.classes.length qualname' family) = fields₁
    generalize n₂.dataFields? (.declared m.classes.length qualname' family) = fields₂
    rintro hoptional (hfields | _)
    · exact hhint.forall₂_fieldMembers hfields hoptional
    · refine hhint.forall₂_attributeMembers (fun own hown ↦ htwins.hasAttribute_eq _ _ ?_) hoptional
      have hcompleted : (m.completed d₁).SameElsewhere name (m.completed d₂) :=
        ⟨hbody.name_eq, hbody.doc, hbody.source, hbody.body⟩
      rw [hc₁.declaration, hc₂.declaration]
      exact hcompleted.contains_ownAttributes h.completed_flavour hown

end

/-- A member whose type may be absent may as well be declared optional, with what remains of its type:
every annotation has the same schema or the same error then, and the struct does not require the
member. -/
theorem compile_absent (h : Redeclared m qualname d₁ d₂ n₁ n₂) (hbody : d₁.SameElsewhere name d₂)
    (hmodel : n₁.isModel (m.nextRef qualname d₁) = false)
    (hobject₁ : n₁.model.classify (.cls (m.nextRef qualname d₁)) = .ok .object)
    (hobject₂ : n₂.model.classify (.cls (m.nextRef qualname d₁)) = .ok .object)
    (habsent : MayBeAbsent m (n₁.reading (m.nextRef qualname d₁)) d₁ name written rest)
    (honce : rest.withoutUndefined? = none) (hnone : rest.isNoneValue = false)
    (hclassVar : rest.isQualifiedBy .classVar = false)
    (hdeclared : IsDeclared m (n₂.reading (m.nextRef qualname d₁)) d₂ name written' rest)
    (hoptional : n₂.DeclaresOptional (m.nextRef qualname d₁) name)
    (hothers : ∀ entry ∈ n₁.annotations (m.nextRef qualname d₁), entry.1 ≠ name →
      entry.2.resolve (n₂.reading (m.nextRef qualname d₁)) =
        entry.2.resolve (n₁.reading (m.nextRef qualname d₁))) :
    (∀ t, (n₂.model.compile t).outcome = (n₁.model.compile t).outcome) ∧
      ∀ node required, (n₁.model.compile (.cls (m.nextRef qualname d₁))).outcome = .ok node →
        Dict.get? "required" node = some (.strings required) → name ∉ required := by
  constructor
  · refine h.outcome_compile hobject₁ hobject₂ fun qualname' family ↦ ?_
    obtain ⟨tail, c₁, c₂, -, -, htwins⟩ := h.exists_twins
    refine htwins.related_classMembers qualname' family ?_
      (related_hints_of_absent h habsent hdeclared hbody hothers qualname' family) ?_
    · rw [isModel, derives_declared htwins.class₁, ← derives_declared htwins.class₁]
      exact hmodel
    · intro hints₁ hints₂ docs hhints₁ hhints₂ hrelated
      exact forall₂_reported_of_absent h habsent hdeclared hbody hoptional
        (absentHint h habsent hdeclared honce hnone hclassVar hhints₁ hhints₂ hrelated)
  · intro node required hnode hrequired
    obtain ⟨tail, c₁, c₂, hc₁, -, htwins⟩ := h.exists_twins
    obtain ⟨t, style, parts, metadata, ht, hpeel, hundefined, -⟩ := habsent.union
    refine TypeModel.notMem_required hobject₁ (fun members hmembers found hfound ↦ ?_) hnode hrequired
    change (n₁.classMembers (m.nextRef qualname d₁)).outcome = .ok members at hmembers
    rw [nextRef, outcome_classMembers (ClassRef.contains_mappings_declared ..) hmodel rfl] at hmembers
    obtain ⟨hints, hhints, rfl⟩ := Outcome.map_eq_ok_iff.mp hmembers
    rw [Outcome.mapError_eq_ok_iff] at hhints
    have hrest := Annotation.withoutUndefined?_of_peel hpeel hundefined
    exact optional_of_mem_reported (nodup_keys_hints hhints)
      (hc₁.get?_hints htwins.class?_own.1 (htwins.linear_left _ _) hhints habsent.annotation ht) hrest
      hfound

/-! ## A text that may be absent -/

/-- A record of two texts, of which the second one is of the given type. -/
def twoTexts (second : Annotation) : Declaration where
  name := "T"
  flavour := .typedDict true
  bases := []
  doc := none
  body := [.annotated "x" (.cls (.builtin "str")) .none, .annotated "y" second .none]
  source := .faithful

def withTwoTexts (second : Annotation) : Module :=
  Module.empty.declaring "T" (twoTexts second)

def absentText : Annotation :=
  .union .barred [.cls (.builtin "str"), .cls .undefined]

def optionalText : Annotation :=
  .qualified .notRequired (.cls (.builtin "str"))

omit [Environment] in
theorem resolve_absentText (reading : Annotation.Reading) : absentText.resolve reading = .ok absentText := by
  have hor : Annotation.or (.cls (.builtin "str")) (.cls .undefined) = absentText := by
    simp [absentText, Annotation.or, Annotation.isBarred, Annotation.barredMembers, Annotation.distinct,
      Annotation.asType, Annotation.same, ClassRef.same]
  exact congrArg Except.ok hor

theorem redeclared_twoTexts : Redeclared .empty "T" (twoTexts absentText) (twoTexts optionalText)
    (withTwoTexts absentText) (withTwoTexts optionalText) := by
  have houtline : (twoTexts absentText).SameOutline (twoTexts optionalText) :=
    ⟨rfl, rfl, rfl, .cons (.refl _) (.cons (.annotated ..) .nil)⟩
  refine .of_built .empty rfl rfl (fun _ hbase ↦ absurd hbase List.not_mem_nil) houtline
    (declares_declaring rfl) (declares_declaring rfl) (fun ref _ ↦ ?_) fun _ qualname family hnumber ↦ ?_
  · cases ref <;> rfl
  · exact sameClass_of_last hnumber hnumber qualname family

omit [Environment] in
theorem sameElsewhere_twoTexts : (twoTexts absentText).SameElsewhere "y" (twoTexts optionalText) := by
  have hknown : (twoTexts absentText).knownAs "y" = "y" := rfl
  exact ⟨rfl, rfl, rfl, .cons (.refl _) (.cons (.annotated hknown ..) .nil)⟩

/-- The second member may be absent in the first declaration. -/
theorem mayBeAbsent_absentText : MayBeAbsent .empty
    ((withTwoTexts absentText).reading (.declared 0 "T" .typedDict)) (twoTexts absentText) "y" absentText
    (.cls (.builtin "str")) :=
  ⟨rfl, rfl, absentText, _, _, _, resolve_absentText _, rfl,
    List.mem_cons_of_mem _ (List.mem_singleton_self _), rfl⟩

theorem isDeclared_optionalText : IsDeclared .empty
    ((withTwoTexts optionalText).reading (.declared 0 "T" .typedDict)) (twoTexts optionalText) "y"
    optionalText (.cls (.builtin "str")) :=
  ⟨rfl, rfl, optionalText, rfl, .qualified rfl .self⟩

/-- The schema of a record of two texts, of which the second one is optional. -/
def twoTextsNode : Node :=
  [("type", .str "object"),
    ("properties", .obj [("x", .obj [("type", .str "string")]), ("y", .obj [("type", .str "string")])]),
    ("required", .strings ["x"])]

theorem declaresOptional_optionalText :
    (withTwoTexts optionalText).DeclaresOptional (.declared 0 "T" .typedDict) "y" :=
  redeclared_twoTexts.declares₂.declaresOptional_of_key rfl rfl rfl

theorem classify_absentText :
    (withTwoTexts absentText).model.classify (.cls (.declared 0 "T" .typedDict)) = .ok .object :=
  rfl

theorem classify_optionalText :
    (withTwoTexts optionalText).model.classify (.cls (.declared 0 "T" .typedDict)) = .ok .object :=
  rfl

/-- The optional text is not listed as required. -/
theorem compile_optionalText :
    ((withTwoTexts optionalText).model.compile (.cls (.declared 0 "T" .typedDict))).outcome =
      .ok twoTextsNode :=
  rfl

end

attribute [local instance] Environment.plain

theorem compile_absent_text :
    (∀ t, ((withTwoTexts optionalText).model.compile t).outcome =
      ((withTwoTexts absentText).model.compile t).outcome) ∧
    ((withTwoTexts absentText).model.compile (.cls (.declared 0 "T" .typedDict))).outcome =
      .ok twoTextsNode ∧
    "y" ∉ ["x"] := by
  obtain ⟨hcompile, hrequired⟩ := compile_absent redeclared_twoTexts sameElsewhere_twoTexts rfl
    classify_absentText classify_optionalText mayBeAbsent_absentText rfl rfl rfl isDeclared_optionalText
    declaresOptional_optionalText (by
      intro entry hentry hother
      have hentry : entry ∈ [("x", .cls (.builtin "str")), ("y", absentText)] := hentry
      rcases List.mem_pair.mp hentry with rfl | rfl
      · exact Annotation.resolve_of_texts_eq_nil rfl
      · exact absurd rfl hother)
  have hnode := (hcompile (.cls (.declared 0 "T" .typedDict))).symm.trans compile_optionalText
  exact ⟨hcompile, hnode, hrequired _ _ hnode rfl⟩

/-! ## A marker behind an alias -/

/-- An alias hides the marker from the type model: the member keeps the union as its type. The
compiler sees that it may be absent, but refuses a union of a text and the marker, while the optional
text has a schema. -/
theorem compile_absent_alias :
    absentText.withoutUndefined? = some (.cls (.builtin "str")) ∧
    Annotation.strip (.synonym 0 "Maybe" absentText) = absentText ∧
    (((Module.empty.declareAlias "Maybe" absentText).declaring "T"
        (twoTexts (.synonym 0 "Maybe" absentText))).model.compile
          (.cls (.declared 0 "T" .typedDict))).outcome =
      .error (.ofError (.unsupportedType .complexUnion absentText.render)) ∧
    ((withTwoTexts optionalText).model.compile (.cls (.declared 0 "T" .typedDict))).outcome =
      .ok [("type", .str "object"),
        ("properties", .obj [("x", .obj [("type", .str "string")]),
          ("y", .obj [("type", .str "string")])]),
        ("required", .strings ["x"])] :=
  ⟨rfl, rfl, rfl, rfl⟩

end Module

end Schematic
