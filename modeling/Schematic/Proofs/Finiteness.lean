import Schematic.Json.Basic
import Schematic.Proofs.Dictionary

/-!
# Values of finite numbers

A value is finite if no number in it is infinite or undefined, however deep the number
stands in arrays and objects. Integers are finite whatever their size.
-/

namespace Schematic.Json

/-- A value stands in another one: it is that value, or it stands in an item or a field of it. -/
inductive Occurs (value : Json) : Json → Prop where
  | self : Occurs value value
  | item {items : List Json} {item : Json} (hitem : item ∈ items) (h : Occurs value item) :
      Occurs value (.arr items)
  | field {fields : List (String × Json)} {field : String × Json} (hfield : field ∈ fields)
      (h : Occurs value field.2) : Occurs value (.obj fields)

/-- No number in a value is infinite or undefined. -/
def IsFinite (value : Json) : Prop :=
  ∀ x, Occurs (.float x) value → x.isFinite = true

theorem isFinite_null : IsFinite .null :=
  fun _ hx ↦ by cases hx

theorem isFinite_bool (b : Bool) : IsFinite (.bool b) :=
  fun _ hx ↦ by cases hx

theorem isFinite_int (n : Int) : IsFinite (.int n) :=
  fun _ hx ↦ by cases hx

theorem isFinite_str (s : String) : IsFinite (.str s) :=
  fun _ hx ↦ by cases hx

/-- A double is finite in the sense of its format. -/
theorem isFinite_float_iff {x : Double} : IsFinite (.float x) ↔ x.isFinite = true := by
  constructor
  · intro h
    exact h x .self
  · intro h y hy
    cases hy with
    | self => exact h

theorem isFinite_arr_iff {items : List Json} :
    IsFinite (.arr items) ↔ ∀ item ∈ items, IsFinite item := by
  constructor
  · intro h item hitem x hx
    exact h x (.item hitem hx)
  · intro h x hx
    cases hx with
    | item hitem hx => exact h _ hitem x hx

/-- An object is finite if its values are. The keys do not matter. -/
theorem isFinite_obj_iff {fields : List (String × Json)} :
    IsFinite (.obj fields) ↔ ∀ field ∈ fields, IsFinite field.2 := by
  constructor
  · intro h field hfield x hx
    exact h x (.field hfield hx)
  · intro h x hx
    cases hx with
    | field hfield hx => exact h _ hfield x hx

/-! ## Objects -/

/-- Setting a key to a finite value keeps an object finite. -/
theorem IsFinite.set {fields : Dict Json} {key : String} {value : Json}
    (h : IsFinite (.obj fields)) (hvalue : IsFinite value) :
    IsFinite (.obj (Dict.set key value fields)) := by
  rw [isFinite_obj_iff] at h ⊢
  intro field hfield
  rcases Dict.mem_of_mem_set hfield with rfl | hold
  · exact hvalue
  · exact h field hold

end Schematic.Json
