import Mathlib.Algebra.BigOperators.Group.Finset.Basic
import Mathlib.Algebra.GroupWithZero.Nat
import Mathlib.Algebra.Order.BigOperators.Group.Finset
import Schematic.Proofs.ClassShape
import Schematic.Proofs.Nesting

/-!
# Descending into annotations

The elements of an array are not as high as the array, and each class that is entered adds
the height of its members once. Therefore a descent is shorter than the bound on the nesting,
and every cycle of annotations passes through a declared class.
-/

namespace Schematic.Module

variable [Environment] {m : Module}

/-! ## The length of descents -/

/-- Two annotations of one class by number are the same type. -/
theorem same_of_strip {a b : Annotation} {number : Nat} {qualname qualname' : String}
    {family family' : Family} (ha : a.strip = .cls (.declared number qualname family))
    (hb : b.strip = .cls (.declared number qualname' family')) :
    (m.model.identity a == m.model.identity b) = true := by
  change Annotation.identical a.strip b.strip = true
  rw [ha, hb, Annotation.identical_cls]
  simp [ClassRef.same]

/-- The bound adds up what each class may contribute once. -/
theorem classHeights_eq_sum : m.classHeights =
    ((List.range m.classes.length).map fun number ↦
      m.memberHeight (.declared number "" .ordinary) + 1).sum := by
  rw [classHeights, List.sum, List.foldr_map]

/-- Distinct classes contribute no more than all classes together. -/
theorem sum_memberHeight_le {numbers : List Nat} (hdistinct : numbers.Nodup)
    (hlt : ∀ number ∈ numbers, number < m.classes.length) :
    (numbers.map fun number ↦ m.memberHeight (.declared number "" .ordinary)).sum ≤
      m.classHeights := by
  have hsubset : numbers.toFinset ⊆ (List.range m.classes.length).toFinset := by
    intro number hnumber
    rw [List.mem_toFinset] at hnumber ⊢
    exact List.mem_range.mpr (hlt number hnumber)
  rw [classHeights_eq_sum, ← List.sum_toFinset _ hdistinct, ← List.sum_toFinset _ List.nodup_range]
  calc
    _ ≤ ∑ number ∈ (List.range m.classes.length).toFinset,
        m.memberHeight (.declared number "" .ordinary) := Finset.sum_le_sum_of_subset hsubset
    _ ≤ _ := Finset.sum_le_sum fun number _ ↦ Nat.le_succ _

/-- A descent is paid for by the height of the root, and by the height of the members of each class
that is open. -/
theorem exists_numbers {root type : Annotation} {steps : Nat} {frames : List Annotation}
    (h : TypeModel.Reached m.model root steps frames type) :
    ∃ numbers : List Nat,
      List.Forall₂ (fun number (frame : Annotation) ↦ ∃ qualname family,
        frame.strip = .cls (.declared number qualname family)) numbers frames ∧
      numbers.Nodup ∧ (∀ number ∈ numbers, number < m.classes.length) ∧
      steps + type.height ≤ root.height +
        (numbers.map fun number ↦ m.memberHeight (.declared number "" .ordinary)).sum := by
  induction h with
  | root => exact ⟨[], .nil, List.nodup_nil, by simp, by simp⟩
  | @element steps frames type element _ helement ih =>
    obtain ⟨numbers, hnumbers, hdistinct, hlt, hsteps⟩ := ih
    have hlower : element.height < type.height := height_lt_of_elementStep helement
    exact ⟨numbers, hnumbers, hdistinct, hlt, by omega⟩
  | @member steps frames type part _ hclosed hmember ih =>
    obtain ⟨numbers, hnumbers, hdistinct, hlt, hsteps⟩ := ih
    obtain ⟨number, qualname, family, c, hshape, hclass, hpart⟩ :=
      exists_number_of_memberStep hmember
    -- The class of the struct is not open, so its number is a new one.
    have hfresh : number ∉ numbers := by
      intro hmem
      obtain ⟨frame, hframe, qualname', family', hframeShape⟩ :=
        Outcome.exists_of_mem_left hnumbers hmem
      exact hclosed (List.any_eq_true.mpr
        ⟨_, List.mem_map_of_mem hframe, same_of_strip hframeShape hshape⟩)
    refine ⟨numbers ++ [number], List.rel_append hnumbers (.cons ⟨qualname, family, hshape⟩ .nil),
      ?_, ?_, ?_⟩
    · rw [← List.concat_eq_append]
      exact hdistinct.concat hfresh
    · intro other hother
      rcases List.mem_append.mp hother with hold | hnew
      · exact hlt other hold
      · rw [List.mem_singleton.mp hnew]
        exact (List.getElem?_eq_some_iff.mp hclass).1
    · have hpos : 0 < type.height := type.height_pos
      have hheight : part.height ≤ m.memberHeight (.declared number "" .ordinary) :=
        Annotation.height_le_of_mem hpart
      rw [List.map_append, List.sum_append, List.map_singleton, List.sum_singleton]
      omega

/-- Every descent is shorter than the bound on the nesting. -/
theorem steps_lt_nesting {root type : Annotation} {steps : Nat} {frames : List Annotation}
    (h : TypeModel.Reached m.model root steps frames type) : steps < m.nesting root := by
  obtain ⟨numbers, -, hdistinct, hlt, hsteps⟩ := exists_numbers h
  have hsum := sum_memberHeight_le hdistinct hlt
  unfold nesting
  omega

/-! ## Cycles -/

def numbered (number : Nat) : Annotation :=
  .cls (.declared number "" .ordinary)

/-- The declared classes and the base class of models, as far as they are structs. -/
def structs (m : Module) : List Annotation :=
  ((List.range m.classes.length).map numbered ++ [(.cls .model : Annotation)]).filter fun type ↦
    m.model.classify type matches .ok .object

/-- A struct without its wrappers and without the name of its class. -/
def anonymous (type : Annotation) : Annotation :=
  match type.strip with
  | .cls (.declared number _ _) => numbered number
  | stripped => stripped

/-- A struct is a declared class or the base class of models. -/
theorem struct_cases {type : Annotation} (h : m.model.classify type = .ok .object) :
    type.strip = .cls .model ∨ ∃ number qualname family c,
      type.strip = .cls (.declared number qualname family) ∧ m.classes[number]? = some c := by
  obtain ⟨ref, hshape, hstruct⟩ := exists_cls_of_object h
  rcases isStruct_cases hstruct with rfl | ⟨c, hclass⟩
  · exact .inl hshape
  · obtain ⟨number, qualname, family, rfl, hnumber⟩ := exists_number_of_class? hclass
    exact .inr ⟨number, qualname, family, c, hshape, hnumber⟩

/-- The listed types are exactly the structs among the numbered classes and the base class of
models. -/
theorem mem_structs_iff {type : Annotation} : type ∈ m.structs ↔
    type ∈ (List.range m.classes.length).map numbered ++ [(.cls .model : Annotation)] ∧
      m.model.classify type = .ok .object := by
  rw [structs, List.mem_filter, and_congr_right_iff]
  intro _
  split
  · rename_i hobject
    exact iff_of_true rfl hobject
  · rename_i hother
    exact iff_of_false Bool.false_ne_true fun hobject ↦ hother hobject

/-- The representative of a struct is a struct as well, of the same class. -/
theorem anonymous_mem_structs {type : Annotation} (h : m.model.classify type = .ok .object) :
    anonymous type ∈ m.structs ∧
      (m.model.identity (anonymous type) == m.model.identity type) = true := by
  rcases struct_cases h with hshape | ⟨number, qualname, family, c, hshape, hclass⟩
  · have hself : anonymous type = .cls .model := by rw [anonymous, hshape]; rfl
    rw [hself]
    refine ⟨mem_structs_iff.mpr ⟨List.mem_append_right _ (List.mem_singleton_self _), ?_⟩, ?_⟩
    · rw [← h]
      exact classify_of_strip hshape.symm
    · change Annotation.identical (.cls .model) type.strip = true
      rw [hshape, Annotation.identical_cls]
      exact model_same_iff.mpr rfl
  · have hself : anonymous type = numbered number := by rw [anonymous, hshape]
    rw [hself]
    refine ⟨mem_structs_iff.mpr ⟨List.mem_append_left _ (List.mem_map_of_mem ?_), ?_⟩, ?_⟩
    · exact List.mem_range.mpr (List.getElem?_eq_some_iff.mp hclass).1
    · rw [numbered, ← classify_declared hclass qualname family, ← h]
      exact classify_of_strip hshape.symm
    · exact same_of_strip rfl hshape

/-- Structs that differ in wrappers and names alone are the same type. -/
theorem same_of_anonymous {a b : Annotation} (ha : m.model.classify a = .ok .object)
    (hb : m.model.classify b = .ok .object) (h : anonymous a = anonymous b) :
    (m.model.identity a == m.model.identity b) = true := by
  unfold anonymous at h
  rcases struct_cases ha with hshape | ⟨number, qualname, family, c, hshape, hclass⟩ <;>
    rcases struct_cases hb with hshape' | ⟨number', qualname', family', c', hshape', hclass'⟩ <;>
    rw [hshape, hshape'] at h
  · change Annotation.identical a.strip b.strip = true
    rw [hshape, hshape', Annotation.identical_cls]
    exact model_same_iff.mpr rfl
  · cases h
  · cases h
  · obtain rfl : number = number' := by
      simpa [numbered] using h
    exact same_of_strip hshape hshape'

end Schematic.Module
