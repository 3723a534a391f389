import Schematic.Proofs.Finiteness

/-!
# Properties that containers take over

A property of values is hereditary if it holds of the scalars, containers have it whenever
what they hold has it, fields take it over, and setting a key keeps it. To have only finite
numbers is such a property, and to have distinct keys in every object is another one.
-/

namespace Schematic.Json

/-- A property of values that is made from scalars upwards, keys being set to values that have it. -/
structure Hereditary (P : Json → Prop) : Prop where
  null : P .null
  bool (b : Bool) : P (.bool b)
  int (n : Int) : P (.int n)
  float {x : Double} (h : x.isFinite = true) : P (.float x)
  str (s : String) : P (.str s)
  arr {items : List Json} (h : ∀ item ∈ items, P item) : P (.arr items)
  obj {fields : Dict Json} (hkeys : fields.keys.Nodup) (h : ∀ field ∈ fields, P field.2) :
    P (.obj fields)
  field {fields : Dict Json} (h : P (.obj fields)) : ∀ field ∈ fields, P field.2
  set {fields : Dict Json} {key : String} {value : Json} (h : P (.obj fields)) (hvalue : P value) :
    P (.obj (Dict.set key value fields))

theorem hereditary_isFinite : Hereditary IsFinite where
  null := isFinite_null
  bool := isFinite_bool
  int := isFinite_int
  float := isFinite_float_iff.mpr
  str := isFinite_str
  arr := isFinite_arr_iff.mpr
  obj _ h := isFinite_obj_iff.mpr h
  field := isFinite_obj_iff.mp
  set h hvalue := h.set hvalue

namespace Hereditary

variable {P : Json → Prop}

theorem strings (hP : Hereditary P) (values : List String) : P (Json.strings values) := by
  refine hP.arr fun item hitem ↦ ?_
  obtain ⟨s, -, rfl⟩ := List.mem_map.mp hitem
  exact hP.str s

/-- An update with values of the property keeps it. -/
theorem update (hP : Hereditary P) {fields entries : Dict Json} (h : P (.obj fields))
    (hentries : ∀ entry ∈ entries, P entry.2) : P (.obj (Dict.update fields entries)) := by
  induction entries generalizing fields with
  | nil => exact h
  | cons entry rest ih =>
    obtain ⟨hentry, hrest⟩ := List.forall_mem_cons.mp hentries
    exact ih (hP.set h hentry) hrest

/-- An object of values with the property has it. -/
theorem ofList (hP : Hereditary P) {entries : Dict Json} (h : ∀ entry ∈ entries, P entry.2) :
    P (.obj (Dict.ofList entries)) :=
  hP.update (hP.obj List.nodup_nil fun _ hfield ↦ absurd hfield List.not_mem_nil) h

end Hereditary

/-! ## Distinct keys -/

/-- In every object of a value, the keys are distinct. -/
def HasDistinctKeys (value : Json) : Prop :=
  ∀ fields, Occurs (.obj fields) value → (Dict.keys fields).Nodup

theorem hasDistinctKeys_float (x : Double) : HasDistinctKeys (.float x) :=
  fun _ hfields ↦ by cases hfields

theorem hasDistinctKeys_arr_iff {items : List Json} :
    HasDistinctKeys (.arr items) ↔ ∀ item ∈ items, HasDistinctKeys item := by
  constructor
  · intro h item hitem fields hfields
    exact h fields (.item hitem hfields)
  · intro h fields hfields
    cases hfields with
    | item hitem hfields => exact h _ hitem fields hfields

theorem hasDistinctKeys_obj_iff {fields : Dict Json} : HasDistinctKeys (.obj fields) ↔
    fields.keys.Nodup ∧ ∀ field ∈ fields, HasDistinctKeys field.2 := by
  constructor
  · intro h
    exact ⟨h fields .self, fun field hfield others hothers ↦ h others (.field hfield hothers)⟩
  · rintro ⟨hkeys, h⟩ others hothers
    cases hothers with
    | self => exact hkeys
    | field hfield hothers => exact h _ hfield others hothers

theorem HasDistinctKeys.set {fields : Dict Json} {key : String} {value : Json}
    (h : HasDistinctKeys (.obj fields)) (hvalue : HasDistinctKeys value) :
    HasDistinctKeys (.obj (Dict.set key value fields)) := by
  rw [hasDistinctKeys_obj_iff] at h ⊢
  refine ⟨Dict.nodup_keys_set h.1, fun field hfield ↦ ?_⟩
  rcases Dict.mem_of_mem_set hfield with rfl | hold
  · exact hvalue
  · exact h.2 field hold

theorem hereditary_hasDistinctKeys : Hereditary HasDistinctKeys where
  null := fun _ hfields ↦ by cases hfields
  bool _ := fun _ hfields ↦ by cases hfields
  int _ := fun _ hfields ↦ by cases hfields
  float _ := hasDistinctKeys_float _
  str _ := fun _ hfields ↦ by cases hfields
  arr := hasDistinctKeys_arr_iff.mpr
  obj hkeys h := hasDistinctKeys_obj_iff.mpr ⟨hkeys, h⟩
  field h := (hasDistinctKeys_obj_iff.mp h).2
  set h hvalue := h.set hvalue

end Schematic.Json
