import Schematic.Proofs.DocumentationLayers
import Schematic.Proofs.KeptText
import Schematic.Proofs.Linearization
import Schematic.Reference.Environment

/-!
# Documentation of declared classes

An enumeration, a typed dictionary, a dataclass, a model or a class with annotations goes by the text
that is written for it. Where none is written, neither the text of a base nor a signature stands in for
it, and the documentation around the class counts, as it does for classes from elsewhere.

A text that opens like the signature of a dataclass is taken for one. So it is lost where the class is
a dataclass or derives from one, even if it was written.
-/

namespace Schematic

namespace Declaration

variable {d : Declaration} {text : String}

end Declaration

namespace Module

variable {m n : Module} {qualname text : String} {d : Declaration} {c : Class} {t : Annotation}

/-! ## Documented classes -/

/-- Whether a class of the declaration lends its text to a schema. The text of a named tuple may be its
signature. -/
def LendsText (n : Module) (ref : ClassRef) (d : Declaration) : Prop :=
  match d.flavour with
  | .plain => d.ownAnnotations ≠ [] ∨ n.isDataclass ref = true
  | .namedTuple => False
  | _ => True

theorem LendsText.flavour_ne {ref : ClassRef} (h : n.LendsText ref d) : d.flavour ≠ .namedTuple := by
  intro hflavour
  unfold LendsText at h
  rw [hflavour] at h
  exact h

/-- The base that comes with a flavour is one of the bases, or above one of them. -/
theorem exists_base_of_flavour {base : ClassRef} (h : (m.completed d).flavour.base? = some base)
    (hbase : base.number? = none) :
    ∃ direct ∈ (m.completed d).bases, m.derives direct base = true := by
  change ∃ direct ∈ m.basesOf { d with flavour := m.flavourOf d }, _
  have hflavour : ({ d with flavour := m.flavourOf d } : Declaration).flavour.base? = some base := h
  unfold basesOf
  rw [hflavour]
  dsimp only
  split
  · rename_i hany
    exact List.any_eq_true.mp hany
  · refine ⟨base, List.mem_append_right _ (List.mem_singleton_self base), ?_⟩
    rw [derives, linear_undeclared m hbase, List.any_cons]
    cases base with
    | declared number qualname family => cases hbase
    | _ => simp [ClassRef.same]

section

variable [Environment]

/-- A declared class derives from the base of its flavour. -/
theorem Declared.derives_of_flavour (hc : Declared m qualname d c) {base : ClassRef}
    (hclass : n.classes[m.classes.length]? = some c)
    (h : (m.completed d).flavour.base? = some base) (hbase : base.number? = none) :
    n.derives (m.nextRef qualname d) base = true := by
  obtain ⟨direct, hdirect, hderives⟩ := exists_base_of_flavour h hbase
  obtain ⟨above, habove, hsame⟩ := List.any_eq_true.mp hderives
  -- The line of a base is kept in the line of the class, with all that the base derives from.
  have hline : (m.linear direct).Sublist c.linear := by
    refine sublist_of_linearFor hdirect ?_ ?_ hc.linear
    · cases hflavour : (m.completed d).flavour with
      | typedDict total =>
        rw [hflavour] at h
        cases h
      | _ => rfl
    · intro hflavour
      rw [hflavour] at h
      cases h
  rw [nextRef, derives_declared hclass]
  exact List.any_eq_true.mpr ⟨above, hline.subset habove, hsame⟩

theorem Declared.isDataclass_of_flavour (hc : Declared m qualname d c) {keywordOnly : Bool}
    (hclass : n.classes[m.classes.length]? = some c)
    (h : (m.completed d).flavour = .dataclass keywordOnly) :
    n.isDataclass (m.nextRef qualname d) = true := by
  obtain ⟨tail, hline⟩ := exists_tail_of_linearFor hc.linear
  obtain ⟨fields, hfields, -⟩ := hc.dataFields keywordOnly h
  have hown : n.class? (m.nextRef qualname d) = some c := hclass
  rw [nextRef] at hown hline
  rw [isDataclass, nextRef, dataFields?_declared hclass, hline, List.findSome?_cons, hown,
    Option.bind_some, hfields]
  rfl

/-- A class that lends its text is documented by it. -/
theorem Declared.isDocumented (hc : Declared m qualname d c)
    (hclass : n.classes[m.classes.length]? = some c)
    (hlends : n.LendsText (m.nextRef qualname d) (m.completed d)) :
    n.isDocumented (m.nextRef qualname d) = true := by
  have hother : m.nextRef qualname d ≠ .undefined := nofun
  unfold Module.isDocumented isStruct
  rw [decide_eq_true hother, Bool.true_and]
  cases hflavour : (m.completed d).flavour with
  | plain =>
    have hannotations : n.annotations (m.nextRef qualname d) = (m.completed d).ownAnnotations := by
      have hown : n.class? (m.nextRef qualname d) = some c := hclass
      rw [annotations, hown]
      dsimp only
      rw [hc.annotations, recordedAnnotations, hflavour]
    unfold LendsText at hlends
    rw [hflavour] at hlends
    rw [hannotations]
    rcases hlends with hown | hdata
    · rw [Bool.eq_false_iff.mpr (mt List.isEmpty_iff.mp hown)]
      simp
    · rw [hdata]
      simp
  | namedTuple => exact absurd hflavour hlends.flavour_ne
  | typedDict total =>
    have hdict : n.isTypedDict (m.nextRef qualname d) = true := by
      rw [nextRef, hc.isTypedDict_eq hclass, hflavour]
    rw [hdict]
    simp
  | dataclass keywordOnly =>
    rw [hc.isDataclass_of_flavour hclass hflavour]
    simp
  | model =>
    have hmodel : n.isModel (m.nextRef qualname d) = true :=
      hc.derives_of_flavour hclass (by rw [hflavour]; rfl) rfl
    rw [hmodel]
    simp
  | enumeration =>
    have henumeration : n.isEnumeration (m.nextRef qualname d) = true :=
      hc.derives_of_flavour hclass (by rw [hflavour]; rfl) rfl
    rw [henumeration]
    simp

/-! ## Symbols of classes -/

end

attribute [local instance] Environment.plain

def point (doc : Option String) : Declaration where
  name := "P"
  flavour := .dataclass false
  bases := []
  doc
  body := [.annotated "x" (.cls (.builtin "int")) .none]
  source := .faithful

end Module

end Schematic
