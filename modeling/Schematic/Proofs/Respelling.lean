import Schematic.Proofs.FollowedTexts
import Schematic.Proofs.Linearization
import Schematic.Reference.Environment

/-!
# Annotations written as texts

Any annotation in a module may be written as a text that denotes it. Types are those that the texts
stand for, but what a class records when it is declared is known before any text is followed: whether
the annotation makes a key of a typed dictionary optional, and the role of a dataclass's field. Where a
text loses nothing of this, the module answers every question about its types in the same way. The
two modules are compared declaration by declaration; models, whose fields are resolved at once, are
taken to have the same fields.
-/

namespace Schematic

section

variable [Environment]

/-! ## Declarations -/

/-- Whether a text can stand for an annotation in the body of a class: the annotation makes a key
neither more nor less optional than the others, and the text announces the role that the annotation
gives to a field. -/
def Module.canSpell (m : Module) (flavour : Flavour) (t : Annotation) (text : String) : Bool :=
  match flavour with
  | .typedDict total => isOptionalKey total t = !total
  | .dataclass _ => Environment.announced m.names text = m.roleOf t
  | .model => false
  | _ => true

/-- A statement, and the same statement whose annotation may be written as a text. -/
inductive Statement.Respelled (m : Module) (flavour : Flavour) : Statement → Statement → Prop where
  | refl (statement : Statement) : Respelled m flavour statement statement
  | text (name : String) (type : Annotation) (text : String) (initial : Initial)
      (h : m.canSpell flavour type text = true) :
      Respelled m flavour (.annotated name type initial) (.annotated name (.value (.str text)) initial)

/-- A declaration, and the same one with some annotations written as texts. -/
structure Declaration.Respelled (m : Module) (flavour : Flavour) (d d' : Declaration) : Prop where
  name : d'.name = d.name
  flavour_eq : d'.flavour = d.flavour
  bases : d'.bases = d.bases
  doc : d'.doc = d.doc
  source : d'.source = d.source
  body : List.Forall₂ (Statement.Respelled m flavour) d.body d'.body

namespace Declaration.Respelled

variable {m : Module} {flavour : Flavour} {d d' : Declaration}

/-- Texts of annotations do not change the outline. -/
theorem sameOutline (h : Respelled m flavour d d') : d.SameOutline d' where
  name := h.name
  doc := h.doc
  source := h.source
  body := h.body.imp fun _ _ hstatement ↦ by
    cases hstatement with
    | refl => exact .refl _
    | text name type text initial => exact .annotated name type (.value (.str text)) initial initial

theorem knownAs (h : Respelled m flavour d d') : d'.knownAs = d.knownAs := by
  funext name
  unfold Declaration.knownAs
  rw [h.name]

/-- What a class annotates, by name; an annotation may be written as a text. -/
theorem ownAnnotations (h : Respelled m flavour d d') :
    Dict.Related (fun _ t t' ↦ t' = t ∨ ∃ text, m.canSpell flavour t text = true ∧ t' = .value (.str text))
      d.ownAnnotations d'.ownAnnotations := by
  unfold Declaration.ownAnnotations
  rw [h.knownAs]
  refine .ofList (List.rel_filterMap (fun statement statement' hstatement ↦ ?_) h.body)
  cases hstatement with
  | refl =>
    cases statement with
    | annotated => exact .some ⟨rfl, .inl rfl⟩
    | _ => exact .none
  | text name type text initial hspelled => exact .some ⟨rfl, .inr ⟨text, hspelled, rfl⟩⟩

theorem initial? (h : Respelled m flavour d d') (name : String) : d'.initial? name = d.initial? name := by
  unfold Declaration.initial?
  rw [h.knownAs]
  refine findSome?_eq_of_forall₂ (List.forall₂_reverse_iff.mpr h.body) fun _ _ hstatement ↦ ?_
  cases hstatement with
  | refl => rfl
  | text _ _ _ initial => cases initial <;> rfl

theorem ownAttributes (h : Respelled m flavour d d') : d'.ownAttributes = d.ownAttributes := by
  unfold Declaration.ownAttributes
  rw [h.knownAs, h.flavour_eq, flatMap_eq_of_forall₂ h.body fun _ _ hstatement ↦ ?_]
  cases hstatement <;> rfl

/-- Types have no part in what an enumeration declares. -/
theorem roster (h : Respelled m flavour d d') : d'.roster = d.roster := by
  have hname (roster : Roster) (place : Nat) (name : String) (value : Option Value) :
      roster.withName d' place name value = roster.withName d place name value := by
    unfold Roster.withName Declaration.isPrivate
    rw [h.name]
  have hbinding {statement statement' : Statement}
      (hstatement : Statement.Respelled m flavour statement statement') :
      statement'.binding = statement.binding := by
    cases hstatement with
    | refl => rfl
    | text _ _ _ initial => cases initial <;> rfl
  have hfold {body body' : List Statement}
      (hbody : List.Forall₂ (Statement.Respelled m flavour) body body') (start : Nat) :
      ((body'.zipIdx start).map fun entry ↦ (entry.1.binding, entry.2)) =
        (body.zipIdx start).map fun entry ↦ (entry.1.binding, entry.2) := by
    induction hbody generalizing start with
    | nil => rfl
    | cons hfirst _ ih =>
      rw [List.zipIdx_cons, List.zipIdx_cons, List.map_cons, List.map_cons, hbinding hfirst, ih]
  have hdeclared := congrArg (List.foldlM (m := Except Failure)
    (fun roster (entry : (List String × Option Value) × Nat) ↦
      entry.1.1.foldlM (fun roster name ↦ roster.withName d entry.2 (d.knownAs name) entry.1.2) roster)
    Roster.empty) (hfold h.body 0)
  simp only [List.foldlM_map] at hdeclared
  unfold Declaration.roster
  rw [h.knownAs]
  simp only [hname, hdeclared]

theorem enumerators (h : Respelled m flavour d d') : d'.enumerators = d.enumerators := by
  funext owner isStrict
  unfold Declaration.enumerators
  rw [h.roster]

end Declaration.Respelled

/-! ## Classes -/

/-- Fields that are the same but for their types. -/
structure DataField.SameRole (field field' : DataField) : Prop where
  role : field'.role = field.role
  optional : field'.optional = field.optional
  keywordOnly : field'.keywordOnly = field.keywordOnly

/-- A class, and the same class with some annotations written as texts. -/
structure Class.Respelled (c c' : Class) : Prop where
  declaration : ∃ m : Module, c.declaration.Respelled m c.declaration.flavour c'.declaration
  qualname : c'.qualname = c.qualname
  linear : c'.linear = c.linear
  optionalKeys : c'.optionalKeys = c.optionalKeys
  dataFields : Option.Rel (Dict.Related fun _ ↦ DataField.SameRole) c.dataFields c'.dataFields
  enumerators : c'.enumerators = c.enumerators

namespace Module

/-- Modules of the same classes, with some annotations written as texts. -/
abbrev Alike (m m' : Module) : Prop :=
  List.Forall₂ Class.Respelled m.classes m'.classes

namespace Alike

variable {m m' : Module}

theorem length_eq (h : Alike m m') : m'.classes.length = m.classes.length :=
  (List.Forall₂.length_eq h).symm

theorem class?_cases (h : Alike m m') (ref : ClassRef) :
    (m.class? ref = none ∧ m'.class? ref = none) ∨
      ∃ c c', m.class? ref = some c ∧ m'.class? ref = some c' ∧ Class.Respelled c c' := by
  cases ref with
  | declared number qualname family =>
    rw [class?, class?]
    by_cases hnumber : number < m.classes.length
    · have hnumber' : number < m'.classes.length := h.length_eq ▸ hnumber
      rw [List.getElem?_eq_getElem hnumber, List.getElem?_eq_getElem hnumber']
      exact .inr ⟨_, _, rfl, rfl, List.Forall₂.get h hnumber hnumber'⟩
    · exact .inl ⟨List.getElem?_eq_none (Nat.not_lt.mp hnumber),
        List.getElem?_eq_none (h.length_eq ▸ Nat.not_lt.mp hnumber)⟩
  | _ => exact .inl ⟨rfl, rfl⟩

theorem linear_eq (h : Alike m m') : m'.linear = m.linear := by
  funext ref
  unfold linear
  rcases h.class?_cases ref with ⟨hleft, hright⟩ | ⟨c, c', hleft, hright, hc⟩ <;> rw [hleft, hright]
  exact hc.linear

theorem derives_eq (h : Alike m m') : m'.derives = m.derives := by
  funext ref base
  rw [derives, derives, h.linear_eq]

theorem isModel_eq (h : Alike m m') : m'.isModel = m.isModel := by
  funext ref
  rw [isModel, isModel, h.derives_eq]

theorem isEnumeration_eq (h : Alike m m') : m'.isEnumeration = m.isEnumeration := by
  funext ref
  rw [isEnumeration, isEnumeration, h.derives_eq]

theorem isTypedDict_eq (h : Alike m m') : m'.isTypedDict = m.isTypedDict := by
  funext ref
  unfold isTypedDict
  rcases h.class?_cases ref with ⟨hleft, hright⟩ | ⟨c, c', hleft, hright, hc⟩ <;> rw [hleft, hright]
  obtain ⟨earlier, hdeclaration⟩ := hc.declaration
  rw [Option.map_some, Option.map_some, hdeclaration.flavour_eq]

theorem optionalKeys_eq (h : Alike m m') : m'.optionalKeys = m.optionalKeys := by
  funext ref
  unfold optionalKeys
  rcases h.class?_cases ref with ⟨hleft, hright⟩ | ⟨c, c', hleft, hright, hc⟩ <;> rw [hleft, hright]
  rw [Option.map_some, Option.map_some, hc.optionalKeys]

theorem enumerators_eq (h : Alike m m') : m'.enumerators = m.enumerators := by
  funext ref
  unfold enumerators
  rcases h.class?_cases ref with ⟨hleft, hright⟩ | ⟨c, c', hleft, hright, hc⟩ <;> rw [hleft, hright]
  rw [Option.map_some, Option.map_some, hc.enumerators]

theorem ownAttributes_eq (h : Alike m m') : m'.ownAttributes = m.ownAttributes := by
  funext ref
  unfold ownAttributes
  rcases h.class?_cases ref with ⟨hleft, hright⟩ | ⟨c, c', hleft, hright, hc⟩ <;> rw [hleft, hright]
  obtain ⟨earlier, hdeclaration⟩ := hc.declaration
  exact hdeclaration.ownAttributes

theorem inheritsAttribute_eq (h : Alike m m') : m'.inheritsAttribute = m.inheritsAttribute := by
  funext line name
  unfold inheritsAttribute
  rw [h.ownAttributes_eq]

theorem listedMembers_eq (h : Alike m m') : m'.listedMembers = m.listedMembers := by
  funext ref
  unfold listedMembers
  rw [h.derives_eq, h.enumerators_eq]

theorem refusedBases?_eq (h : Alike m m') : m'.refusedBases? = m.refusedBases? := by
  have hlayout : m'.layout? = m.layout? := by
    funext ref
    unfold layout?
    rw [h.linear_eq]
  funext bases
  unfold refusedBases?
  rw [hlayout]

theorem ownAttributeDocs_eq (h : Alike m m') : m'.ownAttributeDocs = m.ownAttributeDocs := by
  funext ref
  unfold ownAttributeDocs
  rcases h.class?_cases ref with ⟨hleft, hright⟩ | ⟨c, c', hleft, hright, hc⟩ <;> rw [hleft, hright]
  obtain ⟨earlier, hdeclaration⟩ := hc.declaration
  have houtline := hdeclaration.sameOutline
  simp only [Class.ownAttributeDocs, houtline.source, Statement.documented_congr houtline.body,
    hc.qualname]

theorem dataFields? (h : Alike m m') (ref : ClassRef) :
    Option.Rel (Dict.Related fun _ ↦ DataField.SameRole) (m.dataFields? ref) (m'.dataFields? ref) := by
  unfold Module.dataFields?
  rw [h.linear_eq]
  induction m.linear ref with
  | nil => exact .none
  | cons base rest ih =>
    rw [List.findSome?_cons, List.findSome?_cons]
    rcases h.class?_cases base with ⟨hleft, hright⟩ | ⟨c, c', hleft, hright, hc⟩ <;> rw [hleft, hright]
    · exact ih
    · rw [Option.bind_some, Option.bind_some]
      have hfields := hc.dataFields
      generalize c.dataFields = fields at hfields ⊢
      generalize c'.dataFields = fields' at hfields ⊢
      cases hfields with
      | none => exact ih
      | some hsame => exact .some hsame

/-! ## One more class -/

variable {qualname : String} {d d' : Declaration}

theorem completed (h : Alike m m') (hd : d.Respelled m (m.completed d).flavour d') :
    (m.completed d).Respelled m (m.completed d).flavour (m'.completed d') := by
  have hflavour : (m'.completed d').flavour = (m.completed d).flavour := by
    simp only [Module.completed, flavourOf, hd.flavour_eq, hd.bases, h.isTypedDict_eq, h.isModel_eq,
      h.isEnumeration_eq]
  have hbases : (m'.completed d').bases = (m.completed d).bases := by
    change basesOf m' { d' with flavour := (m'.completed d').flavour } =
      basesOf m { d with flavour := (m.completed d).flavour }
    simp only [basesOf, hflavour, hd.bases, h.derives_eq]
  exact ⟨hd.name, hflavour, hbases, hd.doc, hd.source, hd.body⟩

theorem nextRef_eq (h : Alike m m') (hd : d.Respelled m (m.completed d).flavour d') :
    m'.nextRef qualname d' = m.nextRef qualname d := by
  unfold nextRef familyOf
  rw [(h.completed hd).flavour_eq, (h.completed hd).bases, h.derives_eq, h.length_eq]

variable {flavour : Flavour}

theorem linearFor_eq (h : Alike m m') (hd : d.Respelled m flavour d') (own : ClassRef) :
    m'.linearFor own d' = m.linearFor own d := by
  unfold linearFor
  rw [hd.flavour_eq, hd.bases, h.linear_eq, h.refusedBases?_eq]

theorem enumeratorsFor_eq (h : Alike m m') (hd : d.Respelled m flavour d') (line : List ClassRef) :
    m'.enumeratorsFor qualname d' line = m.enumeratorsFor qualname d line := by
  unfold enumeratorsFor enumerationOf
  rw [hd.enumerators, hd.name, h.length_eq]

/-- A text makes a key neither more nor less optional. -/
theorem typedOptionalKeys_eq (h : Alike m m') {total : Bool} (hd : d.Respelled m (.typedDict total) d') :
    m'.typedOptionalKeys d' total = m.typedOptionalKeys d total := by
  have hown : (d'.ownAnnotations.filter fun entry ↦ isOptionalKey total entry.2).map Prod.fst =
      (d.ownAnnotations.filter fun entry ↦ isOptionalKey total entry.2).map Prod.fst := by
    have hannotations := hd.ownAnnotations
    generalize d.ownAnnotations = entries at hannotations ⊢
    generalize d'.ownAnnotations = entries' at hannotations ⊢
    induction hannotations with
    | nil => rfl
    | @cons entry entry' _ _ hfirst _ ih =>
      have hoptional : isOptionalKey total entry'.2 = isOptionalKey total entry.2 := by
        rcases hfirst.2 with hsame | ⟨text, hspelled, htext⟩
        · rw [hsame]
        · rw [htext, of_decide_eq_true (p := isOptionalKey total entry.2 = !total) hspelled]
          rfl
      rw [List.filter_cons, List.filter_cons, hoptional]
      split
      · rw [List.map_cons, List.map_cons, hfirst.1, ih]
      · exact ih
  unfold typedOptionalKeys
  rw [hd.bases, h.optionalKeys_eq, hown]

/-- The fields of a dataclass keep their roles. -/
theorem ownDataFields (h : Alike m m') (hnames : m'.names = m.names) {keywordOnly : Bool}
    (hd : d.Respelled m (.dataclass keywordOnly) d') (bases : List ClassRef) :
    Dict.Related (fun _ ↦ DataField.SameRole)
      (m.ownDataFields bases keywordOnly d) (m'.ownDataFields bases keywordOnly d') := by
  unfold Module.ownDataFields
  rw [Dict.Related, List.forall₂_map_left_iff, List.forall₂_map_right_iff]
  refine hd.ownAnnotations.imp fun entry entry' hentry ↦ ?_
  obtain ⟨name, type⟩ := entry
  obtain ⟨name', type'⟩ := entry'
  obtain ⟨rfl, htype⟩ := hentry
  refine ⟨rfl, ⟨?_, ?_, rfl⟩⟩
  · rcases htype with rfl | ⟨text, hspelled, rfl⟩
    · unfold roleOf
      rw [hnames]
    · change Environment.announced m'.names text = m.roleOf type
      rw [hnames]
      exact of_decide_eq_true (p := Environment.announced m.names text = m.roleOf type) hspelled
  · dsimp only
    rw [hd.initial?, h.inheritsAttribute_eq]

theorem inheritedDataFields (h : Alike m m') (bases : List ClassRef) :
    Dict.Related (fun _ ↦ DataField.SameRole) (m.inheritedDataFields bases)
      (m'.inheritedDataFields bases) := by
  unfold Module.inheritedDataFields
  refine .ofList ?_
  induction bases.reverse with
  | nil => exact .nil
  | cons base rest ih =>
    rw [List.flatMap_cons, List.flatMap_cons]
    refine List.rel_append ?_ ih
    have hfields := h.dataFields? base
    generalize m.dataFields? base = fields at hfields ⊢
    generalize m'.dataFields? base = fields' at hfields ⊢
    cases hfields with
    | none => exact .nil
    | some hsame => exact hsame

variable {n n' : Module}

/-- What a declaration adds is the same class, with some annotations written as texts. -/
theorem respelled_class (h : Alike m m') (hnames : m'.names = m.names)
    (hd : d.Respelled m (m.completed d).flavour d') {c c' : Class}
    (hc : Declared m qualname d c) (hc' : Declared m' qualname d' c') : Class.Respelled c c' := by
  have hcompleted := h.completed hd
  have hown : m'.nextRef qualname d' = m.nextRef qualname d := h.nextRef_eq hd
  have hline : c'.linear = c.linear := by
    have hlinear := hc'.linear
    rw [h.linearFor_eq hcompleted, hown] at hlinear
    exact Except.ok.inj (hlinear.symm.trans hc.linear)
  refine ⟨?_, ?_, hline, ?_, ?_, ?_⟩
  · rw [hc.declaration, hc'.declaration]
    exact ⟨m, hcompleted⟩
  · rw [hc.qualname_eq, hc'.qualname_eq, hown]
  · rw [hc.optionalKeys, hc'.optionalKeys, hcompleted.flavour_eq]
    cases hflavour : (m.completed d).flavour with
    | typedDict total => exact h.typedOptionalKeys_eq (hflavour ▸ hcompleted)
    | _ => rfl
  · cases hflavour : (m.completed d).flavour with
    | dataclass keywordOnly =>
      obtain ⟨fields, hfields, hmade⟩ := hc.dataFields keywordOnly hflavour
      obtain ⟨fields', hfields', hmade'⟩ :=
        hc'.dataFields keywordOnly (hcompleted.flavour_eq.trans hflavour)
      rw [hfields, hfields', eq_of_dataFieldsFor hmade, eq_of_dataFieldsFor hmade', hline]
      exact .some ((h.inheritedDataFields _).update (h.ownDataFields hnames (hflavour ▸ hcompleted) _))
    | _ =>
      rw [hc.noDataFields (by simp [hflavour]),
        hc'.noDataFields (by simp [hcompleted.flavour_eq, hflavour])]
      exact .none
  · have henumerators := hc'.enumerators
    rw [hown, h.enumeratorsFor_eq hcompleted, hline] at henumerators
    exact Except.ok.inj (henumerators.symm.trans hc.enumerators)

theorem declare (h : Alike m m') (hnames : m'.names = m.names)
    (hd : d.Respelled m (m.completed d).flavour d') {t t' : Annotation}
    (hdeclare : m.declare qualname d = .ok (n, t)) (hdeclare' : m'.declare qualname d' = .ok (n', t')) :
    Alike n n' := by
  obtain ⟨c, hclasses, hc⟩ := declared_of_declare hdeclare
  obtain ⟨c', hclasses', hc'⟩ := declared_of_declare hdeclare'
  rw [Alike, hclasses, hclasses']
  exact List.rel_append h (.cons (h.respelled_class hnames hd hc hc') .nil)

end Alike

/-- Modules that are built in the same way, some annotations being written as texts in the second. -/
inductive Respelled : Module → Module → Prop where
  | empty : Respelled .empty .empty
  | declare {m m' n n' : Module} {qualname : String} {d d' : Declaration} {t t' : Annotation}
      (h : Respelled m m') (hbases : ∀ base ∈ d.bases, m.Holds base)
      (hd : d.Respelled m (m.completed d).flavour d')
      (hdeclare : m.declare qualname d = .ok (n, t))
      (hdeclare' : m'.declare qualname d' = .ok (n', t')) : Respelled n n'
  | declareAlias {m m' : Module} (h : Respelled m m') (name : String) (t : Annotation) :
      Respelled (m.declareAlias name t) (m'.declareAlias name t)
  | declareNewType {m m' : Module} (h : Respelled m m') (name : String) (t : Annotation) :
      Respelled (m.declareNewType name t) (m'.declareNewType name t)

/-! ## Fields and hints -/

section

variable {n : Module} {ref : ClassRef} {name : String}

/-- A declared class has the lines of its bases in its own, whatever reference names it. -/
theorem Built.sublist_linear (hn : n.Built) {c : Class} {base : ClassRef}
    (hclass : n.class? ref = some c) (hbase : base ∈ c.linear) : (n.linear base).Sublist c.linear := by
  obtain ⟨number, qualname', family, rfl, hnumber⟩ := exists_number_of_class? hclass
  obtain ⟨m, qualname, d, -, -, hextends, rfl, hc⟩ := hn.exists_declared hnumber
  obtain ⟨below, hline⟩ := exists_tail_of_linearFor hc.linear
  have hown : n.linear (m.nextRef qualname d) = c.linear := by
    rw [nextRef, linear_declared hnumber]
  have hheld : n.Holds (m.nextRef qualname d) := by
    refine ⟨fun number' hmem ↦ ?_, by rw [hown, hline, List.head?_cons]⟩
    cases hmem
    exact (List.getElem?_eq_some_iff.mp hnumber).1
  rw [← hown] at hbase ⊢
  exact hn.layered.closed _ hheld base hbase

/-- The fields that a class has are those of a class that is declared as a dataclass, in its line. -/
theorem Built.exists_holder (hn : n.Built) {fields : Dict DataField}
    (h : n.dataFields? ref = some fields) :
    ∃ (number : Nat) (c : Class), n.classes[number]? = some c ∧ c.dataFields = some fields ∧
      ∀ base ∈ c.linear, base ∈ n.linear ref := by
  obtain ⟨holder, hholder, hheld⟩ := List.exists_of_findSome?_eq_some h
  obtain ⟨c, hclass, hfields⟩ := Option.bind_eq_some_iff.mp hheld
  obtain ⟨number, qualname, family, rfl, hnumber⟩ := exists_number_of_class? hclass
  refine ⟨number, c, hnumber, hfields, fun base hbase ↦ ?_⟩
  cases hown : n.class? ref with
  | none =>
    rw [linear, hown] at hholder
    rcases List.mem_cons.mp hholder with rfl | hbelow
    · cases hown.symm.trans hclass
    · cases (class?_of_mem_bases hbelow).1.symm.trans hclass
  | some c' =>
    rw [linear, hown] at hholder ⊢
    have hsublist := hn.sublist_linear hown hholder
    rw [linear_declared hnumber] at hsublist
    exact hsublist.subset hbase

/-- The names of a dataclass's fields are annotated in its line. -/
theorem Built.annotated_of_mem_dataFields (hn : n.Built) {number : Nat} {c : Class}
    {fields : Dict DataField} (hclass : n.classes[number]? = some c)
    (hfields : c.dataFields = some fields) (hname : name ∈ Dict.keys fields) :
    ∃ base ∈ c.linear, name ∈ Dict.keys (n.annotations base) := by
  -- A field is the class's own, or one of an earlier class, whose line is part of this one.
  induction number using Nat.strong_induction_on generalizing c fields with
  | _ number ih =>
    obtain ⟨m, qualname, d, hm, hbases, hextends, rfl, hc⟩ := hn.exists_declared hclass
    obtain ⟨below, hline, hbelow, -⟩ :=
      linearFor_spec hm.layered (holds_of_mem_completed_bases hbases) hc.linear
    cases hflavour : (m.completed d).flavour with
    | dataclass keywordOnly =>
      obtain ⟨made, hheld, hmade⟩ := hc.dataFields keywordOnly hflavour
      obtain rfl := Option.some.inj (hheld.symm.trans hfields)
      rw [eq_of_dataFieldsFor hmade, Dict.mem_keys_update] at hname
      rcases hname with hinherited | hown
      · obtain ⟨entry, hentry, rfl⟩ := List.mem_map.mp (Dict.mem_keys_ofList.mp hinherited)
        obtain ⟨base, hbase, hentry⟩ := List.mem_flatMap.mp hentry
        rw [List.mem_reverse, hline, List.drop_one, List.tail_cons] at hbase
        cases hfound : m.dataFields? base with
        | none => simp [hfound] at hentry
        | some inherited =>
          rw [hfound, Option.getD_some] at hentry
          obtain ⟨earlier, holder, hholder, hkept, hpart⟩ := hm.exists_holder hfound
          have hless := (List.getElem?_eq_some_iff.mp hholder).1
          have hstill : n.classes[earlier]? = some holder := by
            obtain ⟨later, hlater⟩ := hextends
            rw [← hlater, List.getElem?_append_left hless, hholder]
          obtain ⟨writer, hwriter, hmem⟩ := ih earlier hless hstill hkept (List.mem_map_of_mem hentry)
          refine ⟨writer, ?_, hmem⟩
          rw [hline]
          exact List.mem_cons_of_mem _ ((hbelow base hbase).2.subset (hpart writer hwriter))
      · refine ⟨m.nextRef qualname d, by simp [hline], ?_⟩
        have hannotations : n.annotations (m.nextRef qualname d) = (m.completed d).ownAnnotations := by
          have hrecorded := hc.annotations
          unfold recordedAnnotations at hrecorded
          rw [hflavour] at hrecorded
          rw [annotations, nextRef, class?, hclass]
          exact hrecorded
        rw [hannotations]
        simpa [Module.ownDataFields, Dict.keys, Function.comp_def] using hown
    | _ =>
      cases (hc.noDataFields (by simp [hflavour])).symm.trans hfields

/-- Whatever is annotated in a line is among the hints. -/
theorem mem_keys_hintsAlong {line : List ClassRef} {hints result : Dict Annotation}
    (h : n.hintsAlong hints line = .ok result)
    (hname : name ∈ Dict.keys hints ∨ ∃ base ∈ line, name ∈ Dict.keys (n.annotations base)) :
    name ∈ Dict.keys result := by
  induction line generalizing hints with
  | nil =>
    cases h
    exact hname.resolve_right (by simp)
  | cons first rest ih =>
    obtain ⟨own, hown, h⟩ := Outcome.bind_eq_ok_iff.mp h
    refine ih h ?_
    have hkeys : own.map Prod.fst = Dict.keys (n.annotations first) :=
      (resolveEntries_eq_ok_iff.mp hown).keys_eq
    rw [Dict.mem_keys_update, hkeys]
    rcases hname with hname | ⟨base, hbase, hname⟩
    · exact .inl (.inl hname)
    · rcases List.mem_cons.mp hbase with rfl | hbase
      · exact .inl (.inr hname)
      · exact .inr ⟨base, hbase, hname⟩

/-- A dataclass has a hint for each of its fields. -/
theorem Built.mem_keys_hints (hn : n.Built) {fields : Dict DataField} {hints : Dict Annotation}
    (hfields : n.dataFields? ref = some fields) (hhints : n.hints ref = .ok hints)
    (hname : name ∈ Dict.keys fields) : name ∈ Dict.keys hints := by
  obtain ⟨number, c, hclass, hkept, hpart⟩ := hn.exists_holder hfields
  obtain ⟨writer, hwriter, hmem⟩ := hn.annotated_of_mem_dataFields hclass hkept hname
  exact mem_keys_hintsAlong hhints (.inr ⟨writer, List.mem_reverse.mpr (hpart writer hwriter), hmem⟩)

end

variable {m m' : Module}

/-- The two modules bind the same names, by which a text announces the same role in both. -/
theorem Respelled.alike_names (h : Respelled m m') :
    Alike m m' ∧ m'.names = m.names ∧ m'.named = m.named := by
  induction h with
  | empty => exact ⟨.nil, rfl, rfl⟩
  | declare _ _ hd hdeclare hdeclare' ih =>
    obtain ⟨halike, hnames, hnamed⟩ := ih
    obtain ⟨hleft, hleft'⟩ := names_of_declare hdeclare
    obtain ⟨hright, hright'⟩ := names_of_declare hdeclare'
    refine ⟨halike.declare hnames hd hdeclare hdeclare', ?_, ?_⟩
    · rw [hleft, hright, halike.nextRef_eq hd, hnames]
    · rw [hleft', hright', hnamed]
  | declareAlias _ name t ih | declareNewType _ name t ih =>
    obtain ⟨halike, hnames, hnamed⟩ := ih
    refine ⟨halike, ?_, congrArg (· + 1) hnamed⟩
    dsimp only [Module.declareAlias, Module.declareNewType, Module.bind]
    rw [hnames, hnamed]

theorem Respelled.alike (h : Respelled m m') : Alike m m' :=
  h.alike_names.1

theorem Respelled.built (h : Respelled m m') : m.Built := by
  induction h with
  | empty => exact .empty
  | declare _ hbases _ hdeclare _ ih => exact ih.declare hbases hdeclare
  | declareAlias _ name t ih => exact ih.declareAlias name t
  | declareNewType _ name t ih => exact ih.declareNewType name t

/-! ## The same answers -/

omit [Environment] in
/-- Members that differ in nothing are the same. -/
theorem eq_of_forall₂_members {members members' : List (Member Annotation)}
    (h : List.Forall₂ (Member.Related Eq) members members') : members' = members := by
  induction h with
  | nil => rfl
  | @cons entry entry' _ _ hfirst _ ih =>
    obtain ⟨name, type, optional, symbol⟩ := entry
    obtain ⟨name', type', optional', symbol'⟩ := entry'
    obtain ⟨hname, htype, hoptional, hsymbol⟩ := hfirst
    dsimp only at hname htype hoptional hsymbol
    rw [hname, ← htype, hoptional, hsymbol, ih]

omit [Environment] in
/-- Annotations that are spelled by others are resolved alike. -/
theorem resolveEntries_eq_of_spelledBy {reading reading' : Annotation.Reading}
    {entries entries' : Dict Annotation}
    (h : Dict.Related (fun _ ↦ Annotation.SpelledBy reading reading') entries entries') :
    resolveEntries reading' entries' = resolveEntries reading entries := by
  induction h with
  | nil => rfl
  | @cons entry entry' _ _ hfirst _ ih =>
    obtain ⟨name, t⟩ := entry
    obtain ⟨name', t'⟩ := entry'
    obtain ⟨rfl, hspelled⟩ := hfirst
    rw [resolveEntries, resolveEntries, hspelled.resolve_eq, ih]

/-- The annotations of every class mean in the one module what they mean in the other. -/
def SpelledIn (m m' : Module) : Prop :=
  ∀ ref, Dict.Related (fun _ ↦ Annotation.SpelledBy (m.reading ref) (m'.reading ref))
    (m.annotations ref) (m'.annotations ref)

theorem Respelled.hints_eq (h : m.Respelled m') (hspelled : m.SpelledIn m') (ref : ClassRef) :
    m'.hints ref = m.hints ref := by
  unfold hints
  rw [h.alike.linear_eq]
  exact hintsAlong_congr (fun base _ ↦ resolveEntries_eq_of_spelledBy (hspelled base)) []

theorem Respelled.fieldMembers_eq (h : m.Respelled m') {ref : ClassRef}
    {fields fields' : Dict DataField} {hints : Dict Annotation} (docs : Dict String)
    (hhints : m.hints ref = .ok hints)
    (hfields : m.dataFields? ref = some fields) (hfields' : m'.dataFields? ref = some fields') :
    fieldMembers fields' hints docs = fieldMembers fields hints docs := by
  have hsame := h.alike.dataFields? ref
  rw [hfields, hfields', Option.rel_some_some] at hsame
  refine eq_of_forall₂_members (forall₂_fieldMembers (hsame.mem.imp fun entry entry' hentry ↦ ?_))
  obtain ⟨name, field⟩ := entry
  obtain ⟨name', field'⟩ := entry'
  obtain ⟨rfl, hsame, hmem, -⟩ := hentry
  -- The type is that of the hint, so that the annotation that the field was made from is not read.
  obtain ⟨t, ht⟩ : ∃ t, Dict.get? name' hints = some t := by
    rw [← Option.ne_none_iff_exists', Ne, Dict.get?_eq_none_iff, not_not]
    exact h.built.mem_keys_hints hfields hhints (List.mem_map_of_mem hmem)
  refine ⟨rfl, hsame.role, fun _ doc ↦ ?_⟩
  rw [ht, hsame.optional]
  exact ⟨rfl, rfl, rfl, rfl⟩

omit [Environment] in
theorem lift_ok_bind {α β : Type} (value : α) (next : α → Logged β) :
    (Logged.lift (.ok value) >>= next) = next value := by
  change Logged.mk (next value).outcome ([] ++ (next value).events) = next value
  rw [List.nil_append]

/-- Every class has the same members, with the same types, and reading them leaves the same records. -/
theorem Respelled.classMembers_eq (h : m.Respelled m') (hspelled : m.SpelledIn m')
    (hmodels : ∀ ref, (m'.class? ref).bind Class.modelFields = (m.class? ref).bind Class.modelFields)
    (ref : ClassRef) : m'.classMembers ref = m.classMembers ref := by
  have halike := h.alike
  have hdocs : m'.attributeDocs ref = m.attributeDocs ref := by
    unfold attributeDocs
    rw [halike.linear_eq, halike.ownAttributeDocs_eq]
  have hattributes (hints : Dict Annotation) (docs : Dict String) :
      m'.attributeMembers ref hints docs = m.attributeMembers ref hints docs := by
    simp only [attributeMembers, hasAttribute, halike.linear_eq, halike.inheritsAttribute_eq]
  have hfields := halike.dataFields? ref
  unfold classMembers
  rw [halike.isModel_eq, hdocs, hmodels, h.hints_eq hspelled, halike.isTypedDict_eq,
    halike.optionalKeys_eq]
  split
  · rfl
  · split
    · rfl
    · cases hhints : m.hints ref with
      | error failure => rfl
      | ok hints =>
        rw [Except.mapError, lift_ok_bind, lift_ok_bind]
        refine congrArg (m.attributeDocs ref >>= ·) (funext fun docs ↦ ?_)
        split
        · rfl
        · cases hleft : m.dataFields? ref <;> cases hright : m'.dataFields? ref
          · exact congrArg Logged.ok (hattributes hints docs)
          · simp [hleft, hright] at hfields
          · simp [hleft, hright] at hfields
          · exact congrArg Logged.ok (h.fieldMembers_eq docs hhints hleft hright)

theorem Alike.isDataclass_eq (h : Alike m m') : m'.isDataclass = m.isDataclass := by
  funext ref
  have hfields := h.dataFields? ref
  unfold isDataclass
  cases hleft : m.dataFields? ref <;> cases hright : m'.dataFields? ref <;>
    simp [hleft, hright] at hfields ⊢

theorem Alike.classDoc?_eq (h : Alike m m') : m'.classDoc? = m.classDoc? := by
  funext ref
  unfold classDoc?
  rw [h.isDataclass_eq]
  rcases h.class?_cases ref with ⟨hleft, hright⟩ | ⟨c, c', hleft, hright, hc⟩ <;> rw [hleft, hright]
  obtain ⟨earlier, hdeclaration⟩ := hc.declaration
  rw [Option.bind_some, Option.bind_some,
    hdeclaration.sameOutline.classDoc hdeclaration.flavour_eq, hdeclaration.name]

theorem Alike.isStruct_eq (h : Alike m m') (hspelled : m.SpelledIn m') : m'.isStruct = m.isStruct := by
  funext ref
  have hempty : (m'.annotations ref).isEmpty = (m.annotations ref).isEmpty := by
    have hannotations := hspelled ref
    generalize m.annotations ref = entries at hannotations ⊢
    generalize m'.annotations ref = entries' at hannotations ⊢
    cases hannotations <;> rfl
  unfold isStruct
  rw [h.isTypedDict_eq, h.isDataclass_eq, h.isModel_eq, hempty]

/-- Where annotations are written as texts, every question about a type has the same answer. -/
theorem Respelled.model_eq (h : m.Respelled m') (hspelled : m.SpelledIn m')
    (hmodels : ∀ ref, (m'.class? ref).bind Class.modelFields = (m.class? ref).bind Class.modelFields) :
    m'.model = m.model := by
  have halike := h.alike
  have hmembers : m'.classMembers = m.classMembers := funext (h.classMembers_eq hspelled hmodels)
  have htuple : m'.isTupleClass = m.isTupleClass := by
    funext ref
    simp only [isTupleClass, hasAttribute, halike.derives_eq, halike.linear_eq,
      halike.inheritsAttribute_eq]
  have hflags : m'.classFlags = m.classFlags := by
    funext ref
    unfold classFlags structFlags
    rw [halike.isEnumeration_eq, htuple, halike.isStruct_eq hspelled]
  have hsymbol : m'.classSymbol? = m.classSymbol? := by
    funext t
    unfold classSymbol? isDocumented
    rw [halike.isEnumeration_eq, halike.isStruct_eq hspelled, halike.classDoc?_eq]
  have hisTuple : m'.isTuple = m.isTuple := by
    funext t
    unfold isTuple
    rw [htuple]
  have hnesting : m'.nesting = m.nesting := by
    funext t
    unfold nesting classHeights memberHeight memberTypes
    rw [hmembers, halike.length_eq]
  unfold model symbol? flags unionMembers members
  rw [hsymbol, hflags, hisTuple, hmembers, hnesting, halike.listedMembers_eq]

/-- Where annotations are written as texts that denote them, every class has the same members and every
annotation the same schema. -/
theorem compile_respelled (h : m.Respelled m') (hspelled : m.SpelledIn m')
    (hmodels : ∀ ref, (m'.class? ref).bind Class.modelFields = (m.class? ref).bind Class.modelFields) :
    (∀ ref, m'.classMembers ref = m.classMembers ref) ∧
      ∀ t, m'.model.compile t = m.model.compile t := by
  refine ⟨h.classMembers_eq hspelled hmodels, fun t ↦ ?_⟩
  rw [h.model_eq hspelled hmodels]

/-- Declarations one after the other keep modules alike. -/
theorem Respelled.declaring (h : m.Respelled m') {qualname : String} {d d' : Declaration}
    (hbases : ∀ base ∈ d.bases, m.Holds base) (hd : d.Respelled m (m.completed d).flavour d')
    (hok : (m.declare qualname d).isOk = true) (hok' : (m'.declare qualname d').isOk = true) :
    (m.declaring qualname d).Respelled (m'.declaring qualname d') := by
  unfold Module.declaring
  cases hdeclare : m.declare qualname d with
  | error failure => simp [hdeclare, Except.isOk, Except.toBool] at hok
  | ok made =>
    cases hdeclare' : m'.declare qualname d' with
    | error failure => simp [hdeclare', Except.isOk, Except.toBool] at hok'
    | ok made' => exact h.declare hbases hd hdeclare hdeclare'

end Module

end

/-! ## A key written as a text -/

namespace Module

open Annotation

attribute [local instance] Environment.plain

def oneKey (name key : String) (t : Annotation) : Declaration where
  name := name
  flavour := .typedDict true
  bases := []
  doc := none
  body := [.annotated key t .none]
  source := .faithful

def twoDicts (first second : Annotation) : Module :=
  (Module.empty.declaring "T" (oneKey "T" "x" first)).declaring "U" (oneKey "U" "y" second)

/-- Two dictionaries refer to each other by texts. -/
theorem compile_respelled_twoDicts :
    (∀ ref, (twoDicts (.cls (.builtin "int")) (.value (.str "T"))).classMembers ref =
      (twoDicts (.cls (.builtin "int")) (.cls (.declared 0 "T" .typedDict))).classMembers ref) ∧
    (∀ t, (twoDicts (.cls (.builtin "int")) (.value (.str "T"))).model.compile t =
      (twoDicts (.cls (.builtin "int")) (.cls (.declared 0 "T" .typedDict))).model.compile t) ∧
    ((twoDicts (.cls (.builtin "int")) (.value (.str "T"))).model.compile
      (.cls (.declared 1 "U" .typedDict))).outcome.isOk = true := by
  have hfirst (m : Module) (flavour : Flavour) (d : Declaration) : d.Respelled m flavour d :=
    ⟨rfl, rfl, rfl, rfl, rfl, List.forall₂_same.mpr fun statement _ ↦ .refl statement⟩
  have hsecond (m : Module) (t : Annotation) (text : String)
      (h : m.canSpell (.typedDict true) t text = true) :
      (oneKey "U" "y" t).Respelled m (.typedDict true) (oneKey "U" "y" (.value (.str text))) :=
    ⟨rfl, rfl, rfl, rfl, rfl, .cons (.text "y" t text .none h) .nil⟩
  have hrespelled : (twoDicts (.cls (.builtin "int")) (.cls (.declared 0 "T" .typedDict))).Respelled
      (twoDicts (.cls (.builtin "int")) (.value (.str "T"))) :=
    .declaring (.declaring .empty (fun _ hbase ↦ by cases hbase) (hfirst _ _ _) rfl rfl)
      (fun _ hbase ↦ by cases hbase) (hsecond _ _ "T" rfl) rfl rfl
  have hspelled : (twoDicts (.cls (.builtin "int")) (.cls (.declared 0 "T" .typedDict))).SpelledIn
      (twoDicts (.cls (.builtin "int")) (.value (.str "T"))) := by
    have hdenoted (qualname : String) (family : Family) :
        ((twoDicts (.cls (.builtin "int")) (.value (.str "T"))).reading
          (.declared 1 qualname family)).denoted .whole "T" = .ok (cls (.declared 0 "T" .typedDict)) :=
      rfl
    intro ref
    match ref with
    | .declared 0 _ _ => exact .cons ⟨rfl, .kept (resolve_of_texts_eq_nil rfl)⟩ .nil
    | .declared 1 qualname family => exact .cons ⟨rfl, .text rfl (hdenoted qualname family) nofun⟩ .nil
    | .declared (_ + 2) _ _ => exact .nil
    | .builtin _ | .abstract _ | .library _ | .undefined | .any => exact .nil
  have hmodels (ref : ClassRef) :
      ((twoDicts (.cls (.builtin "int")) (.value (.str "T"))).class? ref).bind Class.modelFields =
        ((twoDicts (.cls (.builtin "int")) (.cls (.declared 0 "T" .typedDict))).class? ref).bind
          Class.modelFields := by
    match ref with
    | .declared 0 _ _ | .declared 1 _ _ | .declared (_ + 2) _ _ => rfl
    | .builtin _ | .abstract _ | .library _ | .undefined | .any => rfl
  obtain ⟨hmembers, hcompile⟩ := compile_respelled hrespelled hspelled hmodels
  exact ⟨hmembers, hcompile, by decide +kernel⟩

/-- A text that denotes the annotation of an optional key makes its own key required. -/
theorem compile_respelled_optional :
    (((twoDicts (.qualified .notRequired (.cls (.builtin "int")))
        (.value (.str "T.__annotations__['x']"))).reading (.declared 1 "U" .typedDict)).denoted .whole
      "T.__annotations__['x']").toOption.any
        (qualified .notRequired (.cls (.builtin "int"))).same = true ∧
    (((twoDicts (.qualified .notRequired (.cls (.builtin "int")))
        (.qualified .notRequired (.cls (.builtin "int")))).classMembers
      (.declared 1 "U" .typedDict)).outcome.toOption.map (·.map Member.optional)) = some [true] ∧
    (((twoDicts (.qualified .notRequired (.cls (.builtin "int")))
        (.value (.str "T.__annotations__['x']"))).classMembers
      (.declared 1 "U" .typedDict)).outcome.toOption.map (·.map Member.optional)) = some [false] := by
  decide +kernel

end Module

end Schematic
