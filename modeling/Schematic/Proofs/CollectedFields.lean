import Schematic.Proofs.Redeclaration
import Schematic.Reference.Environment

/-!
# Collected fields

The fields of a model are collected by the library that models come from. Little is relied on: a
field that is not declared again is handed on from a base, and plain annotations make fields of their
types. Nothing is assumed of fields with options of their own, of private names, or of annotations
that cannot be resolved when the class is declared. The plain environment collects fields like this.
-/

namespace Schematic

namespace Environment

section

variable [Environment]

/-- A model neither annotates nor binds a name itself, and no base has it as an attribute. -/
structure LeavesAlone (m : Module) (ref : ClassRef) (d : Declaration) (name : String) : Prop where
  unannotated : Dict.contains name d.ownAnnotations = false
  unbound : d.initial? name = none
  unshadowed : m.inheritsAttribute ((m.linear ref).drop 1) name = false

/-- A field that a model leaves alone has the public name and the description that it has in the first
base with a field of that name. -/
def HandsFieldsOn : Prop :=
  ∀ {m : Module} {ref : ClassRef} {d : Declaration} {fields : Dict ModelField} {name : String}
    {field inherited : ModelField}, collected m ref d = .ok fields → LeavesAlone m ref d name →
    d.bases.findSome? (m.fieldOf? · name) = some inherited →
    Dict.get? name (Dict.ofList fields) = some field →
    field.publicName = inherited.publicName ∧ field.description = inherited.description

/-- A model without further bases annotates public names, which are no attributes of its bases, with
types of members, and gives them nothing but values. -/
structure AnnotatesMembers (m : Module) (ref : ClassRef) (d : Declaration) (types : Dict Annotation) :
    Prop where
  class? : ∃ c, m.class? ref = some c ∧ c.linear = [ref, .model, .object] ∧
    c.annotations = d.ownAnnotations
  resolved : Module.resolveEntries (m.reading ref) d.ownAnnotations = .ok types
  isPublic : ∀ name ∈ Dict.keys types, name.startsWith "_" = false
  unshadowed : ∀ name ∈ Dict.keys types, m.inheritsAttribute [.model, .object] name = false
  member : ∀ entry ∈ types, entry.2.content.isQualifiedBy .classVar = false ∧
    entry.2.content.isQualifiedBy .final = false
  value : ∀ name ∈ Dict.keys types, ∀ initial ∈ d.initial? name, ∃ value, initial = .value value

/-- Such a model has a field for each annotation, of the annotated type without the metadata around
it. A field with a value is optional. -/
def CollectsAnnotations : Prop :=
  ∀ {m : Module} {ref : ClassRef} {d : Declaration} {fields : Dict ModelField}
    {types : Dict Annotation}, collected m ref d = .ok fields → AnnotatesMembers m ref d types →
    fields = types.map fun entry ↦
      (entry.1, ⟨entry.2.content, (d.initial? entry.1).isSome, none, none⟩)

end

end Environment

/-! ## Fields in the plain environment -/

namespace Module

attribute [local instance] Environment.plain

variable {m : Module} {ref : ClassRef} {d : Declaration} {name : String}

/-- Where the environment reads the classes plainly, a declared class is read so. -/
theorem reading_plain {c : Class} (hclass : m.class? ref = some c) :
    m.reading ref = m.plainReading ref := by
  cases ref with
  | declared number qualname family => rfl
  | _ => cases hclass

/-- Where all names are known, a model reads its annotations as any other class does. -/
theorem mapM_resolveIfKnown {reading : Annotation.Reading} {entries resolved : Dict Annotation}
    (h : resolveEntries reading entries = .ok resolved) :
    (entries.mapM fun entry ↦ (resolveIfKnown reading entry.2).map (entry.1, ·)) = .ok resolved := by
  induction entries generalizing resolved with
  | nil => exact h
  | cons entry rest ih =>
    obtain ⟨t, ht, h⟩ := Outcome.bind_eq_ok_iff.mp h
    obtain ⟨others, hothers, h⟩ := Outcome.bind_eq_ok_iff.mp h
    have hknown : resolveIfKnown reading entry.2 = .ok t := by
      unfold resolveIfKnown
      rw [ht]
    rw [List.mapM_cons, hknown, ih hothers]
    exact h

/-- The name of each field is that of the hint which the field is made from. -/
theorem exists_hint_of_modelFieldsFor {readings : ClassRef → Annotation.Reading}
    {fields : Dict ModelField} {field : ModelField} (h : m.modelFieldsFor readings ref d = .ok fields)
    (hfield : (name, field) ∈ fields) :
    ∃ t, m.modelField? ((m.linear ref).drop 1) d name t = some field := by
  obtain ⟨hints, -, h⟩ := Outcome.bind_eq_ok_iff.mp h
  cases h
  obtain ⟨hint, -, hfound⟩ := List.mem_filterMap.mp hfield
  obtain ⟨field', hfield', heq⟩ := Option.map_eq_some_iff.mp hfound
  cases heq
  exact ⟨hint.2, hfield'⟩

/-- A name that neither the class nor a base binds has no initial value. -/
theorem modelInitial_of_unbound {bases : List ClassRef} (hunbound : d.initial? name = none)
    (hunshadowed : m.inheritsAttribute bases name = false) : m.modelInitial bases d name = .none := by
  unfold modelInitial
  rw [hunbound]
  exact if_neg (by simp [hunshadowed])

/-- The plain reading keeps the fields that a model leaves alone. -/
theorem handsFieldsOn_plain : Environment.HandsFieldsOn := by
  intro m ref d fields name field inherited hcollected halone hfirst hfound
  obtain ⟨t, ht⟩ := exists_hint_of_modelFieldsFor hcollected
    (Dict.mem_of_mem_ofList (Dict.mem_of_get?_eq_some hfound))
  unfold modelField? at ht
  rw [modelInitial_of_unbound halone.unbound halone.unshadowed, halone.unannotated, hfirst] at ht
  dsimp only at ht
  split at ht
  · cases ht
  · cases ht
    exact ⟨rfl, rfl⟩

/-- A model without further bases has its own hints. -/
theorem modelHintsAlong_lone {types : Dict Annotation} (h : Environment.AnnotatesMembers m ref d types) :
    m.modelHintsAlong m.plainReading [] (m.linear ref).reverse = .ok types := by
  obtain ⟨c, hclass, hlinear, hannotations⟩ := h.class?
  have hresolved := h.resolved
  rw [reading_plain hclass] at hresolved
  have hdistinct : (Dict.keys types).Nodup := by
    rw [(resolveEntries_eq_ok_iff.mp hresolved).keys_eq]
    exact Dict.nodup_keys_ofList _
  have hown : m.annotations ref = d.ownAnnotations := by
    rw [annotations, hclass]
    exact hannotations
  have hline : (m.linear ref).reverse = [.object, .model, ref] := by
    rw [linear, hclass]
    exact congrArg List.reverse hlinear
  have hnone : m.annotations .object = [] ∧ m.annotations .model = [] := ⟨rfl, rfl⟩
  rw [hline]
  simp only [modelHintsAlong, hnone, List.mapM_nil, hown, mapM_resolveIfKnown hresolved]
  exact congrArg Except.ok (Dict.ofList_of_nodup hdistinct)

/-- A name that is annotated has a field of its own. -/
theorem modelField?_eq {types : Dict Annotation} (h : Environment.AnnotatesMembers m ref d types)
    {entry : String × Annotation} (hentry : entry ∈ types) :
    m.modelField? [.model, .object] d entry.1 entry.2 =
      some ⟨entry.2.content, (d.initial? entry.1).isSome, none, none⟩ := by
  have hname : entry.1 ∈ Dict.keys types := List.mem_map_of_mem hentry
  obtain ⟨hshared, hfinal⟩ := h.member entry hentry
  have hplain (qualifier : Qualifier) (hother : entry.2.content.isQualifiedBy qualifier = false) :
      entry.2.isQualifiedBy qualifier = false := by
    generalize entry.2 = t at hother
    cases t <;> first | rfl | exact hother
  have hcontent : entry.2.fieldType = entry.2.content := by
    unfold Annotation.fieldType
    split
    · rename_i heq
      rw [heq] at hfinal
      cases hfinal
    · rfl
  have hannotated : Dict.contains entry.1 d.ownAnnotations = true := by
    rwa [Dict.contains_iff_mem_keys, ← (resolveEntries_eq_ok_iff.mp h.resolved).keys_eq]
  unfold modelField?
  rw [hplain _ hshared, hplain _ hfinal, h.isPublic _ hname, hcontent, hannotated]
  cases hinitial : d.initial? entry.1 with
  | none =>
    rw [modelInitial_of_unbound hinitial (h.unshadowed _ hname)]
    rfl
  | some initial =>
    obtain ⟨value, rfl⟩ := h.value _ hname initial hinitial
    unfold modelInitial
    rw [hinitial]
    rfl

/-- The plain reading makes a field of each annotation. -/
theorem collectsAnnotations_plain : Environment.CollectsAnnotations := by
  intro m ref d fields types hcollected h
  obtain ⟨c, hclass, hlinear, -⟩ := h.class?
  have hline : (m.linear ref).drop 1 = [.model, .object] := by
    rw [linear, hclass]
    exact congrArg (List.drop 1) hlinear
  obtain ⟨hints, hhints, hfields⟩ := Outcome.bind_eq_ok_iff.mp hcollected
  obtain rfl := Except.ok.inj (hhints.symm.trans (modelHintsAlong_lone h))
  rw [← Except.ok.inj hfields, hline, ← List.filterMap_eq_map]
  exact List.filterMap_congr fun entry hentry ↦
    congrArg (Option.map (entry.1, ·)) (modelField?_eq h hentry)

end Module

end Schematic
