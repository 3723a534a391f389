import Schematic.Proofs.AbsentMembers
import Schematic.Proofs.EvaluatedTexts
import Schematic.Proofs.InheritedTexts
import Schematic.Proofs.Respelling

/-!
# Members with evaluated types

A typed dictionary, a dataclass or an ordinary class reports all its members, each with the type that the
nearest annotation of its name evaluates to in the class that it stands in, or it reports none. The latter
happens if an annotation of the class or of a base cannot be evaluated. An unknown name, a misused object
and a value that cannot be looked up are reported for the class as a whole. The other failures of an
evaluation are passed on as they are.
-/

namespace Schematic

/-- The failures of an evaluation that are reported for the class as a whole. -/
def Failure.isReported : Failure → Bool
  | unknownName _ | typeFault _ | unhashable _ => true
  | _ => false

namespace Module

variable {m n : Module} {ref : ClassRef} {name : String} {hints : Dict Annotation}

/-- The report names the class, and it says why. -/
theorem unresolved_of_isReported {failure : Failure} (h : failure.isReported = true) :
    unresolved ref failure = .schema (.unsupportedType .unsupported ref.qualname)
      ("Member annotations of " ++ ref.qualname ++ " unresolved: " ++ failure.message?.getD "") := by
  cases failure <;> first | rfl | cases h

theorem unresolved_of_not_isReported {failure : Failure} (h : failure.isReported = false) :
    unresolved ref failure = failure := by
  cases failure <;> first | rfl | cases h

/-- The type of a member is what remains without the marker of absent values. -/
theorem member_type (name : String) (t : Annotation) (optional : Bool) (doc : Option String) :
    (member name t optional doc).type = t.withoutUndefined?.getD t := by
  unfold member
  cases t.withoutUndefined? <;> rfl

/-- Every key of a typed dictionary is a member. -/
theorem names_keyMembers {docs : Dict String} (optionalKeys : List String) :
    (keyMembers optionalKeys hints docs).map Member.name = Dict.keys hints := by
  simp [keyMembers, Dict.keys, member_name, Function.comp_def]

/-- Only stored fields of a dataclass are members. -/
theorem names_fieldMembers {docs : Dict String} (fields : Dict DataField) :
    (fieldMembers fields hints docs).map Member.name =
      Dict.keys (fields.filter (·.2.role = .stored)) := by
  simp [fieldMembers, Dict.keys, member_name, Function.comp_def]

/-! ## Annotations along a line -/

/-- The annotation of a name in the first class of a line that has one, with this class. -/
def annotationAlong? (m : Module) (line : List ClassRef) (name : String) :
    Option (ClassRef × Annotation) :=
  line.findSome? fun base ↦ (Dict.get? name (m.annotations base)).map fun written ↦ (base, written)

/-- A name has an annotation along a line if a class there annotates it. -/
theorem annotationAlong?_isSome_iff {line : List ClassRef} :
    (m.annotationAlong? line name).isSome = true ↔
      ∃ base ∈ line, name ∈ Dict.keys (m.annotations base) := by
  rw [annotationAlong?, List.findSome?_isSome_iff]
  simp only [Option.isSome_map, ← Dict.contains_iff_mem_keys, Dict.contains]

theorem exists_mem_of_resolveEntries_eq_error {reading : Annotation.Reading}
    {entries : Dict Annotation} {failure : Failure}
    (h : resolveEntries reading entries = .error failure) :
    ∃ entry ∈ entries, entry.2.resolve reading = .error failure := by
  induction entries with
  | nil => cases h
  | cons entry rest ih =>
    rcases Outcome.bind_eq_error_iff.mp h with hfirst | ⟨t, -, h⟩
    · exact ⟨entry, List.mem_cons_self, hfirst⟩
    · rcases Outcome.bind_eq_error_iff.mp h with hrest | ⟨others, -, h⟩
      · obtain ⟨found, hfound, hfailure⟩ := ih hrest
        exact ⟨found, List.mem_cons_of_mem _ hfound, hfailure⟩
      · cases h

variable [Environment]

/-- What a class means by a name. -/
def Means (m : Module) (ref : ClassRef) (name : String) (t : Annotation) : Prop :=
  ∃ base written, m.annotationAlong? (m.linear ref) name = some (base, written) ∧
    written.EvaluatesTo (m.reading base) t

theorem Means.unique {t t' : Annotation} (h : m.Means ref name t) (h' : m.Means ref name t') :
    t' = t := by
  obtain ⟨base, written, hwritten, ht⟩ := h
  obtain ⟨base', written', hwritten', ht'⟩ := h'
  cases hwritten.symm.trans hwritten'
  exact ht.unique ht'

theorem Built.nodup_annotations (hn : n.Built) (ref : ClassRef) :
    (Dict.keys (n.annotations ref)).Nodup := by
  cases hclass : n.class? ref with
  | none =>
    rw [annotations, hclass]
    exact List.nodup_nil
  | some c =>
    obtain ⟨number, qualname, family, -, hnumber⟩ := exists_number_of_class? hclass
    obtain ⟨m, qualname', d, -, -, -, -, hc⟩ := hn.exists_declared hnumber
    have hannotations : n.annotations ref = m.recordedAnnotations (m.completed d) := by
      rw [annotations, hclass]
      exact hc.annotations
    exact hannotations ▸ m.nodup_keys_recordedAnnotations _

/-- Hints are laid over each other from the farthest class on, so that the nearest annotation counts. -/
theorem get?_hintsAlong {line : List ClassRef} (h : n.hintsAlong [] line.reverse = .ok hints)
    (hnodup : ∀ base ∈ line, (Dict.keys (n.annotations base)).Nodup) (name : String) :
    Dict.get? name hints = (n.annotationAlong? line name).bind fun found ↦
      (found.2.resolve (n.reading found.1)).toOption := by
  induction line generalizing hints with
  | nil =>
    cases h
    rfl
  | cons own rest ih =>
    -- The nearest class comes last in the reversed line, so its annotations are laid over all others.
    rw [List.reverse_cons, hintsAlong_append] at h
    obtain ⟨inherited, hinherited, h⟩ := Outcome.bind_eq_ok_iff.mp h
    obtain ⟨resolved, hresolved, h⟩ := Outcome.bind_eq_ok_iff.mp h
    cases h
    obtain ⟨hown, hrest⟩ := List.forall_mem_cons.mp hnodup
    have hrelated := resolveEntries_eq_ok_iff.mp hresolved
    have hkeys : (Dict.keys resolved).Nodup := hrelated.keys_eq ▸ hown
    have hfound := hrelated.get? name
    rw [Dict.get?_update_of_nodup hkeys, ih hinherited hrest, annotationAlong?, annotationAlong?,
      List.findSome?_cons]
    revert hfound
    generalize Dict.get? name (n.annotations own) = written?
    generalize Dict.get? name resolved = meaning?
    rintro (ht | _)
    · simp [ht, Except.toOption]
    · rfl

/-- If the annotations of a class are resolved, each name has the meaning that its hint says. -/
theorem Built.get?_hints_eq_some_iff (hn : n.Built) (hhints : n.hints ref = .ok hints) {t : Annotation} :
    Dict.get? name hints = some t ↔ n.Means ref name t := by
  have hget := get?_hintsAlong hhints (fun base _ ↦ hn.nodup_annotations base) name
  have hmeans {t : Annotation} (ht : Dict.get? name hints = some t) : n.Means ref name t := by
    rw [hget] at ht
    obtain ⟨⟨base, written⟩, hwritten, hresolved⟩ := Option.bind_eq_some_iff.mp ht
    exact ⟨base, written, hwritten,
      Annotation.evaluatesTo_of_resolve (Outcome.eq_ok_of_toOption hresolved)⟩
  refine ⟨hmeans, fun h ↦ ?_⟩
  obtain ⟨base, written, hwritten, -⟩ := id h
  obtain ⟨holder, hholder, hname⟩ :=
    annotationAlong?_isSome_iff.mp (Option.isSome_iff_exists.mpr ⟨_, hwritten⟩)
  have hkey : name ∈ Dict.keys hints :=
    mem_keys_hintsAlong hhints (.inr ⟨holder, List.mem_reverse.mpr hholder, hname⟩)
  obtain ⟨u, hu⟩ := Option.isSome_iff_exists.mp (Dict.contains_iff_mem_keys.mpr hkey)
  rw [hu, h.unique (hmeans hu)]

/-- The hints are for the names with a meaning. -/
theorem Built.mem_keys_hints_iff (hn : n.Built) (hhints : n.hints ref = .ok hints) :
    name ∈ Dict.keys hints ↔ ∃ t, n.Means ref name t := by
  rw [← Dict.contains_iff_mem_keys, Dict.contains, Option.isSome_iff_exists]
  exact exists_congr fun t ↦ hn.get?_hints_eq_some_iff hhints

/-- An annotation of a class or of a base that cannot be evaluated. -/
def AnnotationFails (m : Module) (ref : ClassRef) (failure : Failure) : Prop :=
  ∃ base ∈ m.linear ref, ∃ entry ∈ m.annotations base, entry.2.resolve (m.reading base) = .error failure

theorem exists_mem_of_hintsAlong_eq_error {line : List ClassRef} {failure : Failure}
    (h : m.hintsAlong hints line = .error failure) :
    ∃ base ∈ line, ∃ entry ∈ m.annotations base,
      entry.2.resolve (m.reading base) = .error failure := by
  induction line generalizing hints with
  | nil => cases h
  | cons first rest ih =>
    rcases Outcome.bind_eq_error_iff.mp h with hfirst | ⟨own, -, hrest⟩
    · exact ⟨first, List.mem_cons_self, exists_mem_of_resolveEntries_eq_error hfirst⟩
    · obtain ⟨base, hbase, hentry⟩ := ih hrest
      exact ⟨base, List.mem_cons_of_mem _ hbase, hentry⟩

/-- Hints fail only where an annotation of the class or of a base cannot be evaluated. -/
theorem annotationFails_of_hints {failure : Failure} (h : m.hints ref = .error failure) :
    m.AnnotationFails ref failure := by
  obtain ⟨base, hbase, hentry⟩ := exists_mem_of_hintsAlong_eq_error h
  exact ⟨base, List.mem_reverse.mp hbase, hentry⟩

/-! ## Reported members -/

/-- The names under which a class that is no model has members: all keys of a typed dictionary, the
stored fields of a dataclass, and what any other class annotates but class variables. -/
def Lists (m : Module) (ref : ClassRef) (name : String) : Prop :=
  if m.isTypedDict ref then ∃ t, m.Means ref name t
  else
    match m.dataFields? ref with
    | some fields => ∃ field, (name, field) ∈ fields ∧ field.role = .stored
    | none => ∃ t, m.Means ref name t ∧ t.isQualifiedBy .classVar = false

/-- All members of a class, with what their annotations mean. -/
structure ReportsAll (m : Module) (ref : ClassRef) (members : List (Member Annotation)) : Prop where
  nodup : (members.map Member.name).Nodup
  mem_iff (name : String) : name ∈ members.map Member.name ↔ m.Lists ref name
  evaluated : ∀ entry ∈ members, ∃ t, m.Means ref entry.name t ∧
    entry.type = t.withoutUndefined?.getD t

theorem Built.nodup_keys_dataFields (hn : n.Built) {fields : Dict DataField}
    (h : n.dataFields? ref = some fields) : (Dict.keys fields).Nodup := by
  obtain ⟨number, c, hclass, hfields, -⟩ := hn.exists_holder h
  obtain ⟨m, qualname, d, -, -, -, -, hc⟩ := hn.exists_declared hclass
  cases hflavour : (m.completed d).flavour with
  | dataclass keywordOnly =>
    obtain ⟨made, hheld, hmade⟩ := hc.dataFields keywordOnly hflavour
    obtain rfl := Option.some.inj (hheld.symm.trans hfields)
    rw [eq_of_dataFieldsFor hmade]
    exact Dict.nodup_keys_update (Dict.nodup_keys_ofList _) _
  | _ => cases (hc.noDataFields (by simp [hflavour])).symm.trans hfields

theorem names_attributeMembers {docs : Dict String} :
    (m.attributeMembers ref hints docs).map Member.name =
      Dict.keys (hints.filter fun entry ↦ !entry.2.isQualifiedBy .classVar) := by
  simp [attributeMembers, Dict.keys, member_name, Function.comp_def]

/-- A typed dictionary lists all that it means. -/
theorem lists_iff_of_isTypedDict (h : m.isTypedDict ref = true) :
    m.Lists ref name ↔ ∃ t, m.Means ref name t := by
  rw [Lists, if_pos h]

theorem lists_iff_of_fields (h : m.isTypedDict ref = false) {fields : Dict DataField}
    (hfields : m.dataFields? ref = some fields) :
    m.Lists ref name ↔ ∃ field, (name, field) ∈ fields ∧ field.role = .stored := by
  rw [Lists, h, if_neg Bool.false_ne_true, hfields]

/-- A class without fields lists all that it means but class variables. -/
theorem lists_iff_of_noFields (h : m.isTypedDict ref = false) (hfields : m.dataFields? ref = none) :
    m.Lists ref name ↔ ∃ t, m.Means ref name t ∧ t.isQualifiedBy .classVar = false := by
  rw [Lists, h, if_neg Bool.false_ne_true, hfields]

section

variable (hn : n.Built) (hhints : n.hints ref = .ok hints)

include hn hhints

theorem Built.means_of_mem_hints {t : Annotation} (h : (name, t) ∈ hints) : n.Means ref name t :=
  (hn.get?_hints_eq_some_iff hhints).mp (Dict.get?_eq_some_of_mem (nodup_keys_hints hhints) h)

theorem Built.reportsAll_keyMembers (htyped : n.isTypedDict ref = true) (optionalKeys : List String)
    (docs : Dict String) : n.ReportsAll ref (keyMembers optionalKeys hints docs) := by
  refine ⟨?_, fun name ↦ ?_, fun entry hentry ↦ ?_⟩
  · rw [names_keyMembers]
    exact nodup_keys_hints hhints
  · rw [names_keyMembers, hn.mem_keys_hints_iff hhints, lists_iff_of_isTypedDict htyped]
  · obtain ⟨⟨name, t⟩, hhint, rfl⟩ := List.mem_map.mp hentry
    exact ⟨t, member_name .. ▸ hn.means_of_mem_hints hhints hhint, member_type ..⟩

theorem Built.reportsAll_fieldMembers (htyped : n.isTypedDict ref = false) {fields : Dict DataField}
    (hfields : n.dataFields? ref = some fields) (docs : Dict String) :
    n.ReportsAll ref (fieldMembers fields hints docs) := by
  refine ⟨?_, fun name ↦ ?_, fun entry hentry ↦ ?_⟩
  · rw [names_fieldMembers]
    exact (hn.nodup_keys_dataFields hfields).sublist (List.filter_sublist.map _)
  · rw [names_fieldMembers, lists_iff_of_fields htyped hfields]
    simp [Dict.keys]
  · obtain ⟨⟨name, field⟩, hfield, rfl⟩ := List.mem_map.mp hentry
    have hname : name ∈ Dict.keys fields := List.mem_map_of_mem (List.mem_filter.mp hfield).1
    obtain ⟨t, ht⟩ := (hn.mem_keys_hints_iff hhints).mp (hn.mem_keys_hints hfields hhints hname)
    refine ⟨t, member_name .. ▸ ht, ?_⟩
    rw [member_type, (hn.get?_hints_eq_some_iff hhints).mpr ht, Option.getD_some]

theorem Built.reportsAll_attributeMembers (htyped : n.isTypedDict ref = false)
    (hfields : n.dataFields? ref = none) (docs : Dict String) :
    n.ReportsAll ref (n.attributeMembers ref hints docs) := by
  have hmem (entry : String × Annotation) :
      entry ∈ hints.filter (fun entry ↦ !entry.2.isQualifiedBy .classVar) ↔
        n.Means ref entry.1 entry.2 ∧ entry.2.isQualifiedBy .classVar = false := by
    rw [List.mem_filter, ← hn.get?_hints_eq_some_iff hhints,
      Dict.get?_eq_some_iff_mem (nodup_keys_hints hhints), Bool.not_eq_true']
  refine ⟨?_, fun name ↦ ?_, fun entry hentry ↦ ?_⟩
  · rw [names_attributeMembers]
    exact (nodup_keys_hints hhints).sublist (List.filter_sublist.map _)
  · rw [names_attributeMembers, lists_iff_of_noFields htyped hfields]
    constructor
    · intro hname
      obtain ⟨⟨name, t⟩, hentry, rfl⟩ := List.mem_map.mp hname
      exact ⟨t, (hmem _).mp hentry⟩
    · rintro ⟨t, ht⟩
      exact List.mem_map.mpr ⟨(name, t), (hmem _).mpr ht, rfl⟩
  · obtain ⟨⟨name, t⟩, hhint, rfl⟩ := List.mem_map.mp hentry
    exact ⟨t, member_name .. ▸ ((hmem _).mp hhint).1, member_type ..⟩

/-- Where all annotations are resolved, the members that a class reports are all it has. -/
theorem Built.reportsAll_reported (docs : Dict String) :
    n.ReportsAll ref (n.reported ref hints docs) := by
  unfold reported
  cases htyped : n.isTypedDict ref with
  | true => exact hn.reportsAll_keyMembers hhints htyped _ docs
  | false =>
    rw [if_neg Bool.false_ne_true]
    cases hfields : n.dataFields? ref with
    | some fields => exact hn.reportsAll_fieldMembers hhints htyped hfields docs
    | none => exact hn.reportsAll_attributeMembers hhints htyped hfields docs

end

/-- What comes of the question for the members of a class that is no model. -/
inductive MembersOutcome (m : Module) (ref : ClassRef) : Except Failure (List (Member Annotation)) → Prop where
  | all {members : List (Member Annotation)} (h : m.ReportsAll ref members) : MembersOutcome m ref (.ok members)
  /-- The class is not supported, and the details tell of an annotation. -/
  | reported {failure : Failure} (h : m.AnnotationFails ref failure)
      (hreported : failure.isReported = true) :
      MembersOutcome m ref (.error (.schema (.unsupportedType .unsupported ref.qualname)
        ("Member annotations of " ++ ref.qualname ++ " unresolved: " ++ failure.message?.getD "")))
  /-- A failure of an annotation is passed on. -/
  | escaped {failure : Failure} (h : m.AnnotationFails ref failure)
      (hescaped : failure.isReported = false) : MembersOutcome m ref (.error failure)

theorem membersOutcome_of_annotationFails {failure : Failure} (h : m.AnnotationFails ref failure) :
    MembersOutcome m ref (.error (unresolved ref failure)) := by
  cases hreported : failure.isReported with
  | true =>
    rw [unresolved_of_isReported hreported]
    exact .reported h hreported
  | false =>
    rw [unresolved_of_not_isReported hreported]
    exact .escaped h hreported

/-- A class that is no model reports all its members, or it fails for one of its annotations. -/
theorem Built.membersOutcome (hn : n.Built) {number : Nat} {qualname : String} {family : Family}
    (hmodel : n.isModel (.declared number qualname family) = false) :
    n.MembersOutcome (.declared number qualname family)
      (n.classMembers (.declared number qualname family)).outcome := by
  rw [outcome_classMembers (ClassRef.contains_mappings_declared ..) hmodel rfl]
  cases hhints : n.hints (.declared number qualname family) with
  | error failure => exact membersOutcome_of_annotationFails (annotationFails_of_hints hhints)
  | ok hints => exact .all (hn.reportsAll_reported hhints _)

end Module

end Schematic
