import Schematic.Proofs.Correspondence
import Schematic.Proofs.Dictionary

/-!
# Declaring a class in another way

A declaration adds one class, and what the class takes from earlier ones is fixed then. So two
declarations of the same class, with the same bases and the same texts, lead to modules that can
differ only in that class: in what its annotations mean there, which of its names are optional and
which names it binds. All else about the class is the same in both modules.
-/

namespace Schematic

theorem ClassRef.contains_mappings_declared (number : Nat) (qualname : String) (family : Family) :
    mappings.contains (.declared number qualname family) = false := by
  simp [mappings]

/-! ## Outlines -/

namespace Statement

/-- Statements that are the same but for the type and the right side of an annotated name. -/
inductive SameOutline : Statement → Statement → Prop where
  | refl (statement : Statement) : SameOutline statement statement
  | annotated (name : String) (type type' : Annotation) (initial initial' : Initial) :
      SameOutline (.annotated name type initial) (.annotated name type' initial')

variable {statement statement' : Statement} {body body' : List Statement}

theorem SameOutline.declared? (h : SameOutline statement statement') :
    statement'.declared? = statement.declared? := by
  cases h <;> rfl

theorem SameOutline.text? (h : SameOutline statement statement') :
    statement'.text? = statement.text? := by
  cases h <;> rfl

/-- Documentation texts do not depend on types and values. -/
theorem documented_congr (h : List.Forall₂ SameOutline body body') :
    documented body' = documented body := by
  induction h with
  | nil => rfl
  | cons hfirst hrest ih =>
    cases hrest with
    | nil => rfl
    | cons hsecond hrest =>
      rw [documented, documented, ih, hfirst.declared?, hsecond.text?]

end Statement

namespace Declaration

/-- Declarations of the same name, texts and statements; types and right sides may differ, and so
may flavours and bases. -/
structure SameOutline (d d' : Declaration) : Prop where
  name : d'.name = d.name
  doc : d'.doc = d.doc
  source : d'.source = d.source
  body : List.Forall₂ Statement.SameOutline d.body d'.body

variable {d d' : Declaration}

theorem SameOutline.writtenDoc (h : SameOutline d d') : d'.writtenDoc = d.writtenDoc := by
  have hwritten (d : Declaration) : d.writtenDoc = d.doc.or (d.body.head?.bind Statement.text?) := by
    unfold Declaration.writtenDoc
    split
    · rename_i hdoc
      rw [hdoc, Option.some_or]
    · rename_i hdoc hbody
      rw [hdoc, hbody]
      rfl
    · rename_i hdoc hbody
      rw [hdoc, Option.none_or]
      cases hstatements : d.body with
      | nil => rfl
      | cons first rest =>
        rw [List.head?_cons, Option.bind_some]
        unfold Statement.text?
        split
        · exact absurd hstatements (hbody _ _)
        · rfl
  have hbody := h.body
  rw [hwritten, hwritten, h.doc]
  generalize d.body = body at hbody ⊢
  generalize d'.body = body' at hbody ⊢
  cases hbody with
  | nil => rfl
  | cons hfirst _ =>
    rw [List.head?_cons, List.head?_cons, Option.bind_some, Option.bind_some, hfirst.text?]

theorem SameOutline.annotatedNames (h : SameOutline d d') : d'.annotatedNames = d.annotatedNames := by
  refine filterMap_eq_of_forall₂ h.body fun statement statement' hstatement ↦ ?_
  cases hstatement <;> rfl

/-- Apart from the automatic text of a named tuple, a class goes by what is written for it. -/
theorem SameOutline.classDoc (h : SameOutline d d') (hflavour : d'.flavour = d.flavour) :
    d'.classDoc = d.classDoc := by
  unfold Declaration.classDoc
  rw [h.writtenDoc, h.annotatedNames, h.name, hflavour]

end Declaration

theorem Outcome.map_eq_ok_iff {α β : Type} {result : Except Failure α} {f : α → β} {value : β} :
    result.map f = .ok value ↔ ∃ a, result = .ok a ∧ f a = value := by
  cases result <;> simp [Except.map]

namespace Module

variable [Environment]

/-! ## What a declaration adds -/

/-- A declaration with the flavour and the bases that it gets in a module. -/
def completed (m : Module) (d : Declaration) : Declaration :=
  let d := { d with flavour := m.flavourOf d }
  { d with bases := m.basesOf d }

/-- The reference to the class that a declaration adds. -/
def nextRef (m : Module) (qualname : String) (d : Declaration) : ClassRef :=
  .declared m.classes.length qualname (m.familyOf (m.completed d))

/-- The annotations of the class that a completed declaration adds: those of a typed dictionary
include the ones of its bases. -/
def recordedAnnotations (m : Module) (d : Declaration) : Dict Annotation :=
  match d.flavour with
  | .typedDict _ => m.typedKeys d
  | _ => d.ownAnnotations

/-- A module holds the class that a declaration adds to an earlier module; other declarations may
have followed. -/
def Declares (m : Module) (qualname : String) (d : Declaration) (n : Module) : Prop :=
  ∃ next t, m.declare qualname d = .ok (next, t) ∧ next.classes <+: n.classes

/-- The module that a declaration leads to; one that fails leaves the module as it is. -/
def declaring (m : Module) (qualname : String) (d : Declaration) : Module :=
  match m.declare qualname d with
  | .ok (next, _) => next
  | .error _ => m

/-- A declaration that succeeds leads to a module with its class. -/
theorem declares_declaring {m : Module} {qualname : String} {d : Declaration}
    (h : (m.declare qualname d).isOk = true) : m.Declares qualname d (m.declaring qualname d) := by
  unfold declaring
  cases hdeclare : m.declare qualname d with
  | ok result => exact ⟨result.1, result.2, hdeclare, List.prefix_rfl⟩
  | error failure =>
    rw [hdeclare] at h
    cases h

/-- What a class is that a completed declaration adds. -/
structure Outlined (m : Module) (own : ClassRef) (d : Declaration) (c : Class) : Prop where
  declaration : c.declaration = d
  qualname_eq : c.qualname = own.qualname
  linear : m.linearFor own d = .ok c.linear
  annotations : c.annotations = m.recordedAnnotations d
  optionalKeys : c.optionalKeys =
    match d.flavour with
    | .typedDict total => m.typedOptionalKeys d total
    | _ => []
  dataFields (keywordOnly : Bool) (hflavour : d.flavour = .dataclass keywordOnly) :
    ∃ fields, c.dataFields = some fields ∧
      m.dataFieldsFor (c.linear.drop 1) keywordOnly d = .ok fields
  noDataFields (hflavour : ∀ keywordOnly, d.flavour ≠ .dataclass keywordOnly) : c.dataFields = none
  enumerators : m.enumeratorsFor own.qualname d c.linear = .ok c.enumerators

omit [Environment] in
/-- A check that does not fail leaves the result. -/
theorem eq_ok_of_guarded {α : Type} {guard : Prop} [Decidable guard] {check : Except Failure Unit}
    {rest : Except Failure α} {value : α} (h : (if guard then do check; rest else rest) = .ok value) :
    rest = .ok value := by
  split at h
  · obtain ⟨-, -, h⟩ := Outcome.bind_eq_ok_iff.mp h
    exact h
  · exact h

/-- The outline of a class tells everything but the fields of a model. -/
theorem outlined_of_outline {m : Module} (own : ClassRef) (d : Declaration) {c : Class}
    (h : m.outline own d = .ok c) : Outlined m own d c ∧ c.modelFields = none := by
  unfold outline at h
  cases hflavour : d.flavour <;> simp only [hflavour] at h
  all_goals
    obtain ⟨-, -, h⟩ := Outcome.bind_eq_ok_iff.mp (eq_ok_of_guarded h)
    obtain ⟨line, hline, h⟩ := Outcome.bind_eq_ok_iff.mp h
    obtain ⟨enumerators, henumerators, h⟩ := Outcome.bind_eq_ok_iff.mp h
    obtain ⟨dataFields, hfields, h⟩ := Outcome.bind_eq_ok_iff.mp h
  case dataclass =>
    obtain ⟨fields, hdata, rfl⟩ := Outcome.map_eq_ok_iff.mp hfields
    cases h
    refine ⟨⟨rfl, rfl, hline, ?_, ?_, ?_, ?_, henumerators⟩, rfl⟩
    · rw [recordedAnnotations, hflavour]
    · rw [hflavour]
    · intro keywordOnly hsame
      cases hflavour.symm.trans hsame
      exact ⟨fields, rfl, hdata⟩
    · intro hother
      exact absurd hflavour (hother _)
  all_goals
    cases hfields
    cases h
    refine ⟨⟨rfl, rfl, hline, ?_, ?_, ?_, fun _ ↦ rfl, henumerators⟩, rfl⟩
    · rw [recordedAnnotations, hflavour]
    · rw [hflavour]
    · intro keywordOnly hsame
      cases hflavour.symm.trans hsame

/-- The module as it is when the fields of a model are made: the class is there under its own name,
without fields. -/
def atDeclaration (m : Module) (qualname : String) (d : Declaration) : Module :=
  match m.outline (m.nextRef qualname d) (m.completed d) with
  | .ok c => (m.append c).bind d.name (.cls (m.nextRef qualname d))
  | .error _ => m

/-- What is known of the class that a declaration adds: its outline, and the fields of a model. -/
structure Declared (m : Module) (qualname : String) (d : Declaration) (c : Class) : Prop
    extends Outlined m (m.nextRef qualname d) (m.completed d) c where
  modelFields (hmodel : (m.completed d).flavour = .model) : ∃ fields,
    c.modelFields = some (Dict.ofList fields) ∧
      Environment.collected (m.atDeclaration qualname d) (m.nextRef qualname d) (m.completed d) =
        .ok fields
  noModelFields (hother : (m.completed d).flavour ≠ .model) : c.modelFields = none
  outline : ∃ outline, (m.atDeclaration qualname d).classes[m.classes.length]? = some outline ∧
    Outlined m (m.nextRef qualname d) (m.completed d) outline

/-- A declaration appends one class. -/
theorem declared_of_declare {m n : Module} {qualname : String} {d : Declaration} {t : Annotation}
    (h : m.declare qualname d = .ok (n, t)) :
    ∃ c, n.classes = m.classes ++ [c] ∧ Declared m qualname d c := by
  unfold declare at h
  obtain ⟨outline, houtline, h⟩ := Outcome.bind_eq_ok_iff.mp h
  obtain ⟨houtlined, hnone⟩ :=
    outlined_of_outline (m.nextRef qualname d) (m.completed d) houtline
  have hat : m.atDeclaration qualname d =
      (m.append outline).bind d.name (.cls (m.nextRef qualname d)) := by
    unfold atDeclaration
    rw [show m.outline (m.nextRef qualname d) (m.completed d) = .ok outline from houtline]
  have hheld : ∃ outline, (m.atDeclaration qualname d).classes[m.classes.length]? = some outline ∧
      Outlined m (m.nextRef qualname d) (m.completed d) outline := by
    refine ⟨outline, ?_, houtlined⟩
    rw [hat]
    exact List.getElem?_concat_length
  dsimp only at h
  split at h
  · rename_i hmodel
    obtain ⟨fields, hfields, h⟩ := Outcome.bind_eq_ok_iff.mp h
    cases h
    refine ⟨{ outline with modelFields := some (Dict.ofList fields) }, rfl, ⟨?_, ?_, ?_, hheld⟩⟩
    · exact ⟨houtlined.declaration, houtlined.qualname_eq, houtlined.linear, houtlined.annotations,
        houtlined.optionalKeys, houtlined.dataFields, houtlined.noDataFields, houtlined.enumerators⟩
    · intro _
      refine ⟨fields, rfl, ?_⟩
      rw [hat]
      exact hfields
    · intro hother
      exact absurd hmodel hother
  · rename_i hother
    cases h
    exact ⟨outline, rfl, ⟨houtlined, fun hmodel ↦ absurd hmodel hother, fun _ ↦ hnone, hheld⟩⟩

/-- A declaration binds the class, and nothing else. -/
theorem names_of_declare {m n : Module} {qualname : String} {d : Declaration} {t : Annotation}
    (h : m.declare qualname d = .ok (n, t)) :
    n.names = Dict.set qualname (.cls (m.nextRef qualname d)) m.names ∧ n.named = m.named := by
  unfold declare at h
  obtain ⟨outline, -, h⟩ := Outcome.bind_eq_ok_iff.mp h
  dsimp only at h
  split at h
  · obtain ⟨fields, -, h⟩ := Outcome.bind_eq_ok_iff.mp h
    cases h
    exact ⟨rfl, rfl⟩
  · cases h
    exact ⟨rfl, rfl⟩

/-- The class stands at the place where it was declared. -/
theorem Declares.exists_class {m n : Module} {qualname : String} {d : Declaration}
    (h : m.Declares qualname d n) :
    ∃ c, n.classes[m.classes.length]? = some c ∧ Declared m qualname d c := by
  obtain ⟨next, t, hdeclare, later, hlater⟩ := h
  obtain ⟨c, hclasses, hc⟩ := declared_of_declare hdeclare
  refine ⟨c, ?_, hc⟩
  rw [← hlater, hclasses]
  simp

/-- The earlier classes stay as they are. -/
theorem Declares.earlier {m n : Module} {qualname : String} {d : Declaration}
    (h : m.Declares qualname d n) : m.classes <+: n.classes := by
  obtain ⟨next, t, hdeclare, hnext⟩ := h
  obtain ⟨c, hclasses, -⟩ := declared_of_declare hdeclare
  exact (hclasses ▸ List.prefix_append _ _ : m.classes <+: next.classes).trans hnext

omit [Environment] in
/-- A class comes first in the order of its bases. -/
theorem exists_tail_of_linearFor {m : Module} {own : ClassRef} {d : Declaration} {line : List ClassRef}
    (h : m.linearFor own d = .ok line) : ∃ tail, line = own :: tail := by
  unfold linearFor at h
  split at h
  · cases h
    exact ⟨_, rfl⟩
  · cases h
    exact ⟨_, rfl⟩
  · split at h
    · cases h
    · rename_i hline
      cases h
      obtain ⟨tail, -, hline⟩ := Option.map_eq_some_iff.mp hline
      exact ⟨tail, hline.symm⟩
    · cases h

/-- A dataclass has the fields of its bases and, laid over them, its own. -/
theorem eq_of_dataFieldsFor {m : Module} {d : Declaration} {bases : List ClassRef} {keywordOnly : Bool}
    {fields : Dict DataField} (h : m.dataFieldsFor bases keywordOnly d = .ok fields) :
    fields = Dict.update (m.inheritedDataFields bases) (m.ownDataFields bases keywordOnly d) := by
  unfold dataFieldsFor at h
  dsimp only at h
  split at h
  · cases h
  · cases h
  · exact (Except.ok.inj h).symm

/-- The names of an enumeration's members are known only where a class derives from one. -/
theorem Outlined.enumerators_eq_nil {m : Module} {own : ClassRef} {d : Declaration} {c : Class}
    (h : Outlined m own d c) (hline : c.linear.any ClassRef.enumeration.same = false) :
    c.enumerators = [] := by
  have henumerators := h.enumerators
  unfold enumeratorsFor at henumerators
  rw [if_neg] at henumerators
  · exact (Except.ok.inj henumerators).symm
  · intro hcontains
    have hany : c.linear.any ClassRef.enumeration.same = true :=
      List.any_eq_true.mpr ⟨.enumeration, List.contains_iff_mem.mp hcontains, rfl⟩
    rw [hline] at hany
    cases hany

theorem Outlined.isSome_dataFields {m : Module} {own : ClassRef} {d : Declaration} {c : Class}
    (h : Outlined m own d c) : c.dataFields.isSome = (d.flavour matches .dataclass _) := by
  cases hflavour : d.flavour with
  | dataclass keywordOnly =>
    obtain ⟨fields, hfields, -⟩ := h.dataFields keywordOnly hflavour
    rw [hfields]
    rfl
  | _ =>
    rw [h.noDataFields (by simp [hflavour])]
    rfl

/-! ## Structs that are the same but for their members -/

/-- A class that is classified as a struct is neither an enumeration nor a tuple. -/
theorem flags_of_object {n : Module} {number : Nat} {qualname : String} {family : Family}
    (h : n.model.classify (.cls (.declared number qualname family)) = .ok .object) :
    n.isEnumeration (.declared number qualname family) = false ∧
      n.isTupleClass (.declared number qualname family) = false ∧
      n.isStruct (.declared number qualname family) = true ∧
      n.classFlags (.declared number qualname family) = [.object] := by
  obtain ⟨-, htuple, flags, hflags, hobject⟩ := TypeModel.object_of_classify h
  obtain ⟨ref, hshape, hstruct⟩ := exists_cls_of_object h
  cases hshape
  cases hflags
  have hflags : n.classFlags (.declared number qualname family) =
      if n.isEnumeration (.declared number qualname family) then [.enumLike, .union]
      else n.structFlags (.declared number qualname family) := rfl
  have henumeration : n.isEnumeration (.declared number qualname family) = false := by
    by_contra htrue
    rw [hflags, if_pos (by simpa using htrue)] at hobject
    cases hobject
  refine ⟨henumeration, htuple, hstruct, ?_⟩
  rw [hflags, henumeration, structFlags, hstruct]
  simp

/-- A struct is no enumeration, so it lists no members as one. -/
theorem Outlined.listedMembers_eq_nil {m n : Module} {own : ClassRef} {d : Declaration} {c : Class}
    (h : Outlined m own d c) {number : Nat} {qualname : String} {family : Family}
    (hclass : n.classes[number]? = some c)
    (hobject : n.model.classify (.cls (.declared number qualname family)) = .ok .object) :
    n.listedMembers (.declared number qualname family) = [] := by
  have hplain := (flags_of_object hobject).1
  rw [isEnumeration, derives_declared hclass] at hplain
  have henumerators : n.enumerators (.declared number qualname family) = [] := by
    rw [Module.enumerators, class?, hclass]
    exact h.enumerators_eq_nil hplain
  rw [listedMembers, henumerators]
  rfl

/-- A class that is a struct in two modules is the same in both, if its documentation and its members
are. -/
theorem sameClass_of_object {n₁ n₂ : Module} {number : Nat} {qualname : String} {family : Family}
    (h₁ : n₁.model.classify (.cls (.declared number qualname family)) = .ok .object)
    (h₂ : n₂.model.classify (.cls (.declared number qualname family)) = .ok .object)
    (hlisted : n₂.listedMembers (.declared number qualname family) =
      n₁.listedMembers (.declared number qualname family))
    (hdoc : Docstring.parseOption (n₂.classDoc? (.declared number qualname family)) qualname =
      Docstring.parseOption (n₁.classDoc? (.declared number qualname family)) qualname)
    (hmembers : Outcome.Related (List.Forall₂ (Member.Related Annotation.Akin))
      (n₁.classMembers (.declared number qualname family)).outcome
      (n₂.classMembers (.declared number qualname family)).outcome) :
    SameClass n₁ n₂ (.declared number qualname family) := by
  obtain ⟨-, htuple₁, hstruct₁, hflags₁⟩ := flags_of_object h₁
  obtain ⟨-, htuple₂, hstruct₂, hflags₂⟩ := flags_of_object h₂
  refine ⟨hflags₂.trans hflags₁.symm, htuple₂.trans htuple₁.symm, hlisted, ?_, hmembers⟩
  simp only [classSymbol?, Annotation.strip, isDocumented, hstruct₁, hstruct₂, Bool.or_true,
    ClassRef.qualname, hdoc]

/-! ## Hints -/

/-- Hints are collected along one part of a line after the other. -/
theorem hintsAlong_append (n : Module) (hints : Dict Annotation) (front back : List ClassRef) :
    n.hintsAlong hints (front ++ back) =
      n.hintsAlong hints front >>= fun hints ↦ n.hintsAlong hints back := by
  induction front generalizing hints with
  | nil => rfl
  | cons ref rest ih =>
    simp only [List.cons_append, hintsAlong, ih, bind_assoc]

/-- The resolved annotations of the bases, and the class's own ones laid over them. -/
theorem hints_eq_of_linear {n : Module} {ref own : ClassRef} {tail : List ClassRef}
    (h : n.linear ref = own :: tail) :
    n.hints ref = n.hintsAlong [] tail.reverse >>= fun inherited ↦
      resolveEntries (n.reading own) (n.annotations own) >>= fun resolved ↦
        pure (Dict.update inherited resolved) := by
  unfold hints
  rw [h, List.reverse_cons, hintsAlong_append]
  rfl

theorem hintsAlong_congr {n₁ n₂ : Module} {line : List ClassRef}
    (h : ∀ base ∈ line, resolveEntries (n₂.reading base) (n₂.annotations base) =
      resolveEntries (n₁.reading base) (n₁.annotations base)) (hints : Dict Annotation) :
    n₂.hintsAlong hints line = n₁.hintsAlong hints line := by
  induction line generalizing hints with
  | nil => rfl
  | cons ref rest ih =>
    obtain ⟨hfirst, hrest⟩ := List.forall_mem_cons.mp h
    simp only [hintsAlong, hfirst, ih hrest]

theorem nodup_keys_hintsAlong {n : Module} {line : List ClassRef} (hints : Dict Annotation)
    {result : Dict Annotation} (hhints : (Dict.keys hints).Nodup)
    (h : n.hintsAlong hints line = .ok result) : (Dict.keys result).Nodup := by
  induction line generalizing hints with
  | nil =>
    cases h
    exact hhints
  | cons ref rest ih =>
    obtain ⟨own, -, h⟩ := Outcome.bind_eq_ok_iff.mp h
    exact ih _ (Dict.nodup_keys_update hhints own) h

omit [Environment] in
/-- Resolving keeps the names and their order. -/
theorem resolveEntries_eq_ok_iff {reading : Annotation.Reading} {entries resolved : Dict Annotation} :
    resolveEntries reading entries = .ok resolved ↔
      Dict.Related (fun _ t t' ↦ t.resolve reading = .ok t') entries resolved := by
  induction entries generalizing resolved with
  | nil =>
    constructor
    · rintro ⟨⟩
      exact .nil
    · rintro ⟨⟩
      rfl
  | cons entry rest ih =>
    obtain ⟨name, t⟩ := entry
    simp only [resolveEntries, Outcome.bind_eq_ok_iff, ih]
    constructor
    · rintro ⟨t', ht, rest', hrest, ⟨⟩⟩
      exact .cons ⟨rfl, ht⟩ hrest
    · rintro (_ | ⟨⟨hname, ht⟩, hrest⟩)
      exact ⟨_, ht, _, hrest, congrArg (fun name ↦ Except.ok ((name, _) :: _)) hname.symm⟩

omit [Environment] in
/-- Entries that mean related types in two readings have related types, or fail in the same way. -/
theorem related_resolveEntries {reading₁ reading₂ : Annotation.Reading} {Q T : String → Annotation → Annotation → Prop}
    {entries₁ entries₂ : Dict Annotation} (h : Dict.Related Q entries₁ entries₂)
    (hresolve : ∀ name t₁ t₂, Q name t₁ t₂ →
      Outcome.Related (T name) (t₁.resolve reading₁) (t₂.resolve reading₂)) :
    Outcome.Related (Dict.Related T) (resolveEntries reading₁ entries₁)
      (resolveEntries reading₂ entries₂) := by
  induction h with
  | nil => exact .ok .nil
  | @cons entry entry' _ _ hfirst _ ih =>
    obtain ⟨name, t₁⟩ := entry
    obtain ⟨name', t₂⟩ := entry'
    obtain ⟨rfl, hfirst⟩ := hfirst
    have hresolved := hresolve _ _ _ hfirst
    rw [resolveEntries, resolveEntries]
    revert hresolved ih
    generalize t₁.resolve reading₁ = left
    generalize t₂.resolve reading₂ = right
    generalize resolveEntries reading₁ _ = leftRest
    generalize resolveEntries reading₂ _ = rightRest
    intro hrest hresolved
    cases hresolved with
    | error failure => exact .error failure
    | ok hvalue =>
      cases hrest with
      | error failure => exact .error failure
      | ok hrest => exact .ok (.cons ⟨rfl, hvalue⟩ hrest)

theorem nodup_keys_hints {n : Module} {ref : ClassRef} {hints : Dict Annotation}
    (h : n.hints ref = .ok hints) : (Dict.keys hints).Nodup :=
  nodup_keys_hintsAlong [] List.nodup_nil h

/-- What a class annotates itself is its hint, whatever its bases say. -/
theorem get?_hints_of_own {n : Module} {ref own : ClassRef} {tail : List ClassRef}
    {hints : Dict Annotation} {name : String} {written t : Annotation}
    (hline : n.linear ref = own :: tail) (hnodup : (Dict.keys (n.annotations own)).Nodup)
    (hhints : n.hints ref = .ok hints) (hwritten : Dict.get? name (n.annotations own) = some written)
    (ht : written.resolve (n.reading own) = .ok t) : Dict.get? name hints = some t := by
  rw [hints_eq_of_linear hline] at hhints
  obtain ⟨inherited, -, hhints⟩ := Outcome.bind_eq_ok_iff.mp hhints
  obtain ⟨resolved, hresolved, hhints⟩ := Outcome.bind_eq_ok_iff.mp hhints
  cases hhints
  have hrelated := resolveEntries_eq_ok_iff.mp hresolved
  have hfound := hrelated.get? name
  rw [Dict.get?_update_of_nodup (hrelated.keys_eq ▸ hnodup : (Dict.keys resolved).Nodup)]
  rw [hwritten] at hfound
  cases hresult : Dict.get? name resolved with
  | none => simp [hresult] at hfound
  | some t' =>
    rw [hresult, Option.rel_some_some, ht] at hfound
    rw [Option.some_or, Except.ok.inj hfound]

/-! ## Members -/

/-- The members of a class that is no model, given its hints and its documentation texts. -/
def reported (n : Module) (ref : ClassRef) (hints : Dict Annotation) (docs : Dict String) :
    List (Member Annotation) :=
  if n.isTypedDict ref then keyMembers (n.optionalKeys ref) hints docs
  else
    match n.dataFields? ref with
    | some fields => fieldMembers fields hints docs
    | none => n.attributeMembers ref hints docs

/-- A class that is no model reports its hints in the order of its kind. -/
theorem outcome_classMembers {n : Module} {ref : ClassRef} {docs : Dict String}
    (hplain : ClassRef.mappings.contains ref = false) (hmodel : n.isModel ref = false)
    (hdocs : (n.attributeDocs ref).outcome = .ok docs) :
    (n.classMembers ref).outcome =
      ((n.hints ref).mapError (unresolved ref)).map fun hints ↦ n.reported ref hints docs := by
  unfold classMembers reported
  simp only [hplain, hmodel, Bool.false_eq_true, if_false, Logged.outcome_bind, Logged.outcome_lift,
    hdocs, Outcome.ok_bind]
  cases n.hints ref with
  | error failure => rfl
  | ok hints =>
    simp only [Except.mapError, Outcome.ok_bind, Except.map]
    split
    · rfl
    · cases n.dataFields? ref <;> rfl

section

variable {R : Annotation → Annotation → Prop} {hints hints' : Dict Annotation} {docs : Dict String}

omit [Environment] in
theorem forall₂_keyMembers {optionalKeys optionalKeys' : List String}
    (h : Dict.Related (fun name t t' ↦ ∀ doc, Member.Related R
      (member name t (optionalKeys.contains name) doc)
      (member name t' (optionalKeys'.contains name) doc)) hints hints') :
    List.Forall₂ (Member.Related R) (keyMembers optionalKeys hints docs)
      (keyMembers optionalKeys' hints' docs) := by
  unfold keyMembers
  rw [List.forall₂_map_left_iff, List.forall₂_map_right_iff]
  refine h.imp fun entry entry' hentry ↦ ?_
  obtain ⟨name, t⟩ := entry
  obtain ⟨name', t'⟩ := entry'
  obtain ⟨rfl, hmember⟩ := hentry
  exact hmember _

omit [Environment] in
theorem forall₂_fieldMembers {fields fields' : Dict DataField}
    (h : Dict.Related (fun name field field' ↦ field'.role = field.role ∧
      (field.role = .stored → ∀ doc, Member.Related R
        (member name ((Dict.get? name hints).getD field.type) field.optional doc)
        (member name ((Dict.get? name hints').getD field'.type) field'.optional doc))) fields fields') :
    List.Forall₂ (Member.Related R) (fieldMembers fields hints docs)
      (fieldMembers fields' hints' docs) := by
  unfold fieldMembers
  rw [List.forall₂_map_left_iff, List.forall₂_map_right_iff]
  refine forall₂_filter (h.imp fun entry entry' hentry ↦ ?_)
  obtain ⟨name, field⟩ := entry
  obtain ⟨name', field'⟩ := entry'
  obtain ⟨rfl, hrole, hmember⟩ := hentry
  dsimp only at hrole hmember
  exact ⟨by rw [hrole], fun hstored ↦ hmember (by simpa using hstored) _⟩

theorem forall₂_attributeMembers {n n' : Module} {ref ref' : ClassRef}
    (h : Dict.Related (fun name t t' ↦
      t'.isQualifiedBy .classVar = t.isQualifiedBy .classVar ∧ ∀ doc, Member.Related R
        (member name t (n.hasAttribute ref name) doc)
        (member name t' (n'.hasAttribute ref' name) doc)) hints hints') :
    List.Forall₂ (Member.Related R) (n.attributeMembers ref hints docs)
      (n'.attributeMembers ref' hints' docs) := by
  unfold attributeMembers
  rw [List.forall₂_map_left_iff, List.forall₂_map_right_iff]
  refine forall₂_filter (h.imp fun entry entry' hentry ↦ ?_)
  obtain ⟨name, t⟩ := entry
  obtain ⟨name', t'⟩ := entry'
  obtain ⟨rfl, hshared, hmember⟩ := hentry
  dsimp only at hshared hmember
  exact ⟨by rw [hshared], fun _ ↦ hmember _⟩

end

/-! ## One class in two modules -/

/-- A class that two modules hold under one number, with the same bases and the same texts. -/
structure Twins (n₁ n₂ : Module) (number : Nat) (own : ClassRef) (tail : List ClassRef) (c₁ c₂ : Class) :
    Prop where
  own_eq : ∃ qualname family, own = .declared number qualname family
  class₁ : n₁.classes[number]? = some c₁
  class₂ : n₂.classes[number]? = some c₂
  line₁ : c₁.linear = own :: tail
  line₂ : c₂.linear = own :: tail
  qualname : c₂.qualname = c₁.qualname
  outline : c₁.declaration.SameOutline c₂.declaration
  inherited : ∀ base ∈ tail, n₂.class? base = n₁.class? base ∧
    resolveEntries (n₂.reading base) (n₂.annotations base) =
      resolveEntries (n₁.reading base) (n₁.annotations base)

namespace Twins

variable {n₁ n₂ : Module} {number : Nat} {own : ClassRef} {tail : List ClassRef} {c₁ c₂ : Class}

theorem class?_own (h : Twins n₁ n₂ number own tail c₁ c₂) :
    n₁.class? own = some c₁ ∧ n₂.class? own = some c₂ := by
  obtain ⟨qualname, family, rfl⟩ := h.own_eq
  exact ⟨h.class₁, h.class₂⟩

variable (h : Twins n₁ n₂ number own tail c₁ c₂) (qualname : String) (family : Family)

include h

theorem linear_left : n₁.linear (.declared number qualname family) = own :: tail := by
  rw [linear_declared h.class₁, h.line₁]

theorem linear_right : n₂.linear (.declared number qualname family) = own :: tail := by
  rw [linear_declared h.class₂, h.line₂]

theorem derives_eq (base : ClassRef) : n₂.derives (.declared number qualname family) base =
    n₁.derives (.declared number qualname family) base := by
  rw [derives, derives, h.linear_left, h.linear_right]

theorem attributeDocs_eq : n₂.attributeDocs (.declared number qualname family) =
    n₁.attributeDocs (.declared number qualname family) := by
  have hown : n₂.ownAttributeDocs own = n₁.ownAttributeDocs own := by
    unfold ownAttributeDocs Class.ownAttributeDocs
    rw [h.class?_own.1, h.class?_own.2]
    simp only [h.outline.source, Statement.documented_congr h.outline.body, h.qualname]
  have htail : tail.map n₂.ownAttributeDocs = tail.map n₁.ownAttributeDocs := by
    refine List.map_congr_left fun base hbase ↦ ?_
    unfold ownAttributeDocs
    rw [(h.inherited base hbase).1]
  unfold attributeDocs
  rw [h.linear_left, h.linear_right, List.map_reverse, List.map_reverse, List.map_cons,
    List.map_cons, hown, htail]

theorem dataFields?_left : n₁.dataFields? (.declared number qualname family) =
    c₁.dataFields.or (tail.findSome? fun base ↦ (n₁.class? base).bind Class.dataFields) := by
  unfold dataFields?
  rw [h.linear_left, List.findSome?_cons, h.class?_own.1, Option.bind_some]
  cases c₁.dataFields <;> rfl

theorem dataFields?_right : n₂.dataFields? (.declared number qualname family) =
    c₂.dataFields.or (tail.findSome? fun base ↦ (n₁.class? base).bind Class.dataFields) := by
  have htail : (tail.findSome? fun base ↦ (n₂.class? base).bind Class.dataFields) =
      tail.findSome? fun base ↦ (n₁.class? base).bind Class.dataFields := by
    have hmap : tail.map (fun base ↦ (n₂.class? base).bind Class.dataFields) =
        tail.map fun base ↦ (n₁.class? base).bind Class.dataFields :=
      List.map_congr_left fun base hbase ↦ by rw [(h.inherited base hbase).1]
    simpa only [List.findSome?_map, Function.id_comp] using congrArg (List.findSome? id) hmap
  unfold dataFields?
  rw [h.linear_right, List.findSome?_cons, h.class?_own.2, Option.bind_some, htail]
  cases c₂.dataFields <;> rfl

/-- The hints that a class inherits are the same in both modules. -/
theorem hintsAlong_tail : n₂.hintsAlong [] tail.reverse = n₁.hintsAlong [] tail.reverse :=
  hintsAlong_congr (fun base hbase ↦ (h.inherited base (List.mem_reverse.mp hbase)).2) []

/-- A name that the class itself binds in both modules, or in none. -/
theorem hasAttribute_eq {name : String}
    (hown : c₂.declaration.ownAttributes.contains name = c₁.declaration.ownAttributes.contains name) :
    n₂.hasAttribute (.declared number qualname family) name =
      n₁.hasAttribute (.declared number qualname family) name := by
  have htail : tail.map (fun base ↦ (n₂.ownAttributes base).contains name) =
      tail.map fun base ↦ (n₁.ownAttributes base).contains name := by
    refine List.map_congr_left fun base hbase ↦ ?_
    unfold ownAttributes
    rw [(h.inherited base hbase).1]
  replace htail : (tail.any fun base ↦ (n₂.ownAttributes base).contains name) =
      tail.any fun base ↦ (n₁.ownAttributes base).contains name := by
    simpa only [List.any_map, Function.id_comp] using congrArg (List.any · id) htail
  have hfirst₁ : n₁.ownAttributes own = c₁.declaration.ownAttributes := by
    rw [ownAttributes, h.class?_own.1]
  have hfirst₂ : n₂.ownAttributes own = c₂.declaration.ownAttributes := by
    rw [ownAttributes, h.class?_own.2]
  unfold hasAttribute inheritsAttribute
  rw [h.linear_left, h.linear_right, List.any_cons, List.any_cons, hfirst₁, hfirst₂, hown, htail]

/-- Twins of the same flavour are documented by the same text. -/
theorem classDoc?_eq (hflavour : c₂.declaration.flavour = c₁.declaration.flavour)
    (hfields : c₂.dataFields.isSome = c₁.dataFields.isSome) :
    n₂.classDoc? (.declared number qualname family) =
      n₁.classDoc? (.declared number qualname family) := by
  have hdata : n₂.isDataclass (.declared number qualname family) =
      n₁.isDataclass (.declared number qualname family) := by
    unfold isDataclass
    rw [h.dataFields?_left, h.dataFields?_right, Option.isSome_or, Option.isSome_or, hfields]
  unfold classDoc?
  rw [class?, class?, h.class₁, h.class₂, Option.bind_some, Option.bind_some, hdata,
    h.outline.classDoc hflavour, h.outline.name]

/-- The hints of the class are related, if those are that its own annotations give. -/
theorem related_hints {T : String → Annotation → Annotation → Prop} (hrefl : ∀ name t, T name t t)
    (hown : Outcome.Related (Dict.Related T) (resolveEntries (n₁.reading own) c₁.annotations)
      (resolveEntries (n₂.reading own) c₂.annotations)) :
    Outcome.Related (Dict.Related T) (n₁.hints (.declared number qualname family))
      (n₂.hints (.declared number qualname family)) := by
  have hannotations₁ : n₁.annotations own = c₁.annotations := by rw [annotations, h.class?_own.1]
  have hannotations₂ : n₂.annotations own = c₂.annotations := by rw [annotations, h.class?_own.2]
  rw [hints_eq_of_linear (h.linear_left qualname family),
    hints_eq_of_linear (h.linear_right qualname family), h.hintsAlong_tail, hannotations₁, hannotations₂]
  cases n₁.hintsAlong [] tail.reverse with
  | error failure => exact .error failure
  | ok inherited =>
    revert hown
    generalize resolveEntries (n₁.reading own) _ = left
    generalize resolveEntries (n₂.reading own) _ = right
    intro hown
    cases hown with
    | error failure => exact .error failure
    | ok hown => exact .ok ((Dict.related_refl hrefl inherited).update hown)

/-- The members of the class correspond, if those do that it reports for its hints. -/
theorem related_classMembers {R : Annotation → Annotation → Prop}
    {T : String → Annotation → Annotation → Prop}
    (hmodel : n₁.isModel (.declared number qualname family) = false)
    (hhints : Outcome.Related (Dict.Related T) (n₁.hints (.declared number qualname family))
      (n₂.hints (.declared number qualname family)))
    (hreported : ∀ hints₁ hints₂ docs, n₁.hints (.declared number qualname family) = .ok hints₁ →
      n₂.hints (.declared number qualname family) = .ok hints₂ → Dict.Related T hints₁ hints₂ →
      List.Forall₂ (Member.Related R) (n₁.reported (.declared number qualname family) hints₁ docs)
        (n₂.reported (.declared number qualname family) hints₂ docs)) :
    Outcome.Related (List.Forall₂ (Member.Related R))
      (n₁.classMembers (.declared number qualname family)).outcome
      (n₂.classMembers (.declared number qualname family)).outcome := by
  have hmodel₂ : n₂.isModel (.declared number qualname family) = false := by
    rw [isModel, h.derives_eq]
    exact hmodel
  have hdocs : (n₂.attributeDocs (.declared number qualname family)).outcome =
      (n₁.attributeDocs (.declared number qualname family)).outcome := by rw [h.attributeDocs_eq]
  have hplain := ClassRef.contains_mappings_declared number qualname family
  rw [outcome_classMembers hplain hmodel rfl, outcome_classMembers hplain hmodel₂ hdocs]
  revert hhints hreported
  generalize n₁.hints (.declared number qualname family) = left
  generalize n₂.hints (.declared number qualname family) = right
  intro hhints hreported
  cases hhints with
  | error failure => exact .error _
  | ok hhints => exact .ok (hreported _ _ _ rfl rfl hhints)

end Twins

/-- A class declared in two ways, with the same flavour, the same bases and the same texts. All other
classes are the same in both modules, and so is what the class inherits. -/
structure Redeclared (m : Module) (qualname : String) (d₁ d₂ : Declaration) (n₁ n₂ : Module) : Prop where
  flavour : d₂.flavour = d₁.flavour
  bases : d₂.bases = d₁.bases
  outline : d₁.SameOutline d₂
  declares₁ : m.Declares qualname d₁ n₁
  declares₂ : m.Declares qualname d₂ n₂
  inherited : ∀ base ∈ (n₁.linear (m.nextRef qualname d₁)).tail, n₂.class? base = n₁.class? base ∧
    resolveEntries (n₂.reading base) (n₂.annotations base) =
      resolveEntries (n₁.reading base) (n₁.annotations base)
  others : AgreeElsewhere n₁ n₂ m.classes.length

namespace Redeclared

variable {m n₁ n₂ : Module} {qualname : String} {d₁ d₂ : Declaration}

theorem completed_flavour (h : Redeclared m qualname d₁ d₂ n₁ n₂) :
    (m.completed d₂).flavour = (m.completed d₁).flavour := by
  simp only [completed, flavourOf, h.flavour, h.bases]

theorem completed_bases (h : Redeclared m qualname d₁ d₂ n₁ n₂) :
    (m.completed d₂).bases = (m.completed d₁).bases := by
  simp only [completed, basesOf, flavourOf, h.flavour, h.bases]

theorem nextRef_eq (h : Redeclared m qualname d₁ d₂ n₁ n₂) :
    m.nextRef qualname d₂ = m.nextRef qualname d₁ := by
  unfold nextRef familyOf
  rw [h.completed_flavour, h.completed_bases]

theorem exists_twins (h : Redeclared m qualname d₁ d₂ n₁ n₂) :
    ∃ tail c₁ c₂, Declared m qualname d₁ c₁ ∧ Declared m qualname d₂ c₂ ∧
      Twins n₁ n₂ m.classes.length (m.nextRef qualname d₁) tail c₁ c₂ := by
  obtain ⟨c₁, hclass₁, hc₁⟩ := h.declares₁.exists_class
  obtain ⟨c₂, hclass₂, hc₂⟩ := h.declares₂.exists_class
  obtain ⟨tail, hline⟩ := exists_tail_of_linearFor hc₁.linear
  have hsame : c₂.linear = c₁.linear := by
    have hlinear : m.linearFor (m.nextRef qualname d₂) (m.completed d₂) =
        m.linearFor (m.nextRef qualname d₁) (m.completed d₁) := by
      unfold linearFor
      rw [h.completed_flavour, h.completed_bases, h.nextRef_eq]
    exact Except.ok.inj (hc₂.linear.symm.trans (hlinear.trans hc₁.linear))
  refine ⟨tail, c₁, c₂, hc₁, hc₂, ?_⟩
  exact
    { own_eq := ⟨qualname, _, rfl⟩
      class₁ := hclass₁
      class₂ := hclass₂
      line₁ := hline
      line₂ := hsame.trans hline
      qualname := by rw [hc₁.qualname_eq, hc₂.qualname_eq, h.nextRef_eq]
      outline := by
        rw [hc₁.declaration, hc₂.declaration]
        exact ⟨h.outline.name, h.outline.doc, h.outline.source, h.outline.body⟩
      inherited := by
        intro base hbase
        refine h.inherited base ?_
        rw [nextRef, linear_declared hclass₁, hline]
        exact hbase }

/-- Where the members of the class correspond, every annotation has the same schema in both modules,
or the same error. -/
theorem outcome_compile (h : Redeclared m qualname d₁ d₂ n₁ n₂)
    (hobject₁ : n₁.model.classify (.cls (m.nextRef qualname d₁)) = .ok .object)
    (hobject₂ : n₂.model.classify (.cls (m.nextRef qualname d₁)) = .ok .object)
    (hmembers : ∀ qualname family, Outcome.Related (List.Forall₂ (Member.Related Annotation.Akin))
      (n₁.classMembers (.declared m.classes.length qualname family)).outcome
      (n₂.classMembers (.declared m.classes.length qualname family)).outcome) (t : Annotation) :
    (n₂.model.compile t).outcome = (n₁.model.compile t).outcome := by
  obtain ⟨tail, c₁, c₂, hc₁, hc₂, htwins⟩ := h.exists_twins
  refine outcome_compile_of_sameClass (fun ref ↦ ?_) (.refl t)
  by_cases hown : ∃ qualname family, ref = .declared m.classes.length qualname family
  · obtain ⟨qualname', family', rfl⟩ := hown
    have hobject₁ := (classify_declared htwins.class₁ qualname' family').trans
      ((classify_declared htwins.class₁ _ _).symm.trans hobject₁)
    have hobject₂ := (classify_declared htwins.class₂ qualname' family').trans
      ((classify_declared htwins.class₂ _ _).symm.trans hobject₂)
    refine sameClass_of_object hobject₁ hobject₂ ?_ ?_ (hmembers _ _)
    · rw [hc₁.listedMembers_eq_nil htwins.class₁ hobject₁,
        hc₂.listedMembers_eq_nil htwins.class₂ hobject₂]
    · refine congrArg (Docstring.parseOption · _) (htwins.classDoc?_eq qualname' family' ?_ ?_)
      · rw [hc₁.declaration, hc₂.declaration, h.completed_flavour]
      · rw [hc₁.isSome_dataFields, hc₂.isSome_dataFields, h.completed_flavour]
  · exact h.others ref fun qualname family heq ↦ hown ⟨qualname, family, heq⟩

end Redeclared

end Module

end Schematic
