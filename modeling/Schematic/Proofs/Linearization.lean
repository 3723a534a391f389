import Schematic.Proofs.Redeclaration

/-!
# Lines of bases

A merge keeps every line that it is made from in its order and repeats nothing. So in a module that
is built step by step, the line of a class holds the lines of all its bases in their order, with no
class twice. An inductive invariant carries this: a declaration adds a class whose bases are there
already, and leaves the earlier lines alone.
-/

namespace Schematic

namespace Linear

variable {α : Type} [DecidableEq α]

/-! ## Merging -/

/-- The next entry is the first one of a line, and comes later in none. -/
theorem of_next? {lines : List (List α)} {head : α} (h : next? lines = some head) :
    (∃ line ∈ lines, line.head? = some head) ∧ ∀ line ∈ lines, head ∉ line.drop 1 := by
  have hfree := List.find?_some h
  constructor
  · obtain ⟨line, hline, hhead⟩ := List.mem_filterMap.mp (List.mem_of_find?_eq_some h)
    exact ⟨line, hline, hhead⟩
  · intro line hline
    simpa using List.all_eq_true.mp hfree line hline

/-- A step takes the next entry off a line that starts with it, and it is in no line then. -/
theorem advance_cases {head : α} {line : List α} (hfree : head ∉ line.drop 1) :
    ∃ left, (if line.head? = some head then line.drop 1 else line) = left ∧
      (line = left ∨ line = head :: left) ∧ head ∉ left := by
  refine ⟨_, rfl, ?_⟩
  cases line with
  | nil => simp
  | cons first rest =>
    rw [List.drop_one, List.tail_cons] at hfree
    by_cases hfirst : first = head
    · subst hfirst
      simpa using hfree
    · simpa [hfirst, Ne.symm hfirst] using hfree

/-- What a merge gives: every line in its order, nothing else, and nothing twice. -/
theorem mergeWithin_spec {steps : Nat} {lines : List (List α)} {merged : List α}
    (h : mergeWithin steps lines = some merged) :
    (∀ line ∈ lines, line.Sublist merged) ∧ (∀ entry ∈ merged, ∃ line ∈ lines, entry ∈ line) ∧
      merged.Nodup := by
  have hdone {lines : List (List α)} (hempty : lines.all List.isEmpty = true) :
      (∀ line ∈ lines, line.Sublist []) ∧ (∀ entry ∈ ([] : List α), ∃ line ∈ lines, entry ∈ line) ∧
        ([] : List α).Nodup := by
    refine ⟨fun line hline ↦ ?_, by simp, List.nodup_nil⟩
    rw [List.isEmpty_iff.mp (List.all_eq_true.mp hempty line hline)]
  induction steps generalizing lines merged with
  | zero =>
    unfold mergeWithin at h
    split at h
    · rename_i hempty
      cases h
      exact hdone hempty
    · cases h
  | succ steps ih =>
    unfold mergeWithin at h
    split at h
    · rename_i hempty
      cases h
      exact hdone hempty
    · split at h
      · cases h
      · rename_i head hnext
        obtain ⟨⟨first, hfirst, hhead⟩, hfree⟩ := of_next? hnext
        obtain ⟨rest, hrest, rfl⟩ := Option.map_eq_some_iff.mp h
        obtain ⟨hlines, hmembers, hnodup⟩ := ih hrest
        have hleft (line : List α) (hline : line ∈ lines) :
            ∃ left ∈ advance head lines, (line = left ∨ line = head :: left) ∧ head ∉ left := by
          obtain ⟨left, hleft, hcases⟩ := advance_cases (hfree line hline)
          exact ⟨left, List.mem_map.mpr ⟨line, hline, hleft⟩, hcases⟩
        have hline (left : List α) (hleft : left ∈ advance head lines) :
            ∃ line ∈ lines, (line = left ∨ line = head :: left) ∧ head ∉ left := by
          obtain ⟨line, hline, rfl⟩ := List.mem_map.mp hleft
          obtain ⟨left, rfl, hcases⟩ := advance_cases (hfree line hline)
          exact ⟨line, hline, hcases⟩
        refine ⟨fun line hmem ↦ ?_, fun entry hentry ↦ ?_,
          List.nodup_cons.mpr ⟨fun hagain ↦ ?_, hnodup⟩⟩
        · obtain ⟨left, hadvanced, rfl | rfl, -⟩ := hleft line hmem
          · exact (hlines line hadvanced).cons head
          · exact (hlines left hadvanced).cons_cons head
        · rcases List.mem_cons.mp hentry with rfl | hentry
          · exact ⟨first, hfirst, List.mem_of_mem_head? hhead⟩
          · obtain ⟨left, hadvanced, hentry⟩ := hmembers entry hentry
            obtain ⟨line, hmem, rfl | rfl, -⟩ := hline left hadvanced
            · exact ⟨line, hmem, hentry⟩
            · exact ⟨head :: left, hmem, List.mem_cons_of_mem head hentry⟩
        · obtain ⟨left, hmem, hentry⟩ := hmembers head hagain
          obtain ⟨line, -, -, hgone⟩ := hline left hmem
          exact hgone hentry

/-- The line of a class is the class itself, then the lines of its bases, merged. -/
theorem ofBases_spec {own : α} {bases : List α} {line : α → List α} {whole : List α}
    (h : ofBases own bases line = some whole) : ∃ below, whole = own :: below ∧
      (∀ base ∈ bases, (line base).Sublist below) ∧
      (∀ entry ∈ below, entry ∈ bases ∨ ∃ base ∈ bases, entry ∈ line base) ∧ below.Nodup := by
  obtain ⟨below, hmerge, rfl⟩ := Option.map_eq_some_iff.mp h
  obtain ⟨hlines, hmembers, hnodup⟩ := mergeWithin_spec hmerge
  refine ⟨below, rfl, fun base hbase ↦ ?_, fun entry hentry ↦ ?_, hnodup⟩
  · exact hlines _ (List.mem_append_left _ (List.mem_map_of_mem hbase))
  · obtain ⟨own, hown, hentry⟩ := hmembers entry hentry
    rcases List.mem_append.mp hown with hown | hown
    · obtain ⟨base, hbase, rfl⟩ := List.mem_map.mp hown
      exact .inr ⟨base, hbase, hentry⟩
    · rw [List.mem_singleton.mp hown] at hentry
      exact .inl hentry

end Linear

namespace ClassRef

/-! ## Classes from elsewhere -/

/-- The number of a declared class. -/
def number? : ClassRef → Option Nat
  | declared number _ _ => some number
  | _ => none

/-- A class that is not declared, with the line below it: nothing is there twice, and whatever is there
has its own line there. -/
def HasClosedBases (ref : ClassRef) : Prop :=
  (ref :: ref.bases).Nodup ∧ ∀ base ∈ ref.bases, (base :: base.bases).Sublist ref.bases

theorem hasClosedBases_library (name : String) : (library name).HasClosedBases := by
  unfold HasClosedBases
  rw [bases]
  unfold enumerationBases
  split
  · decide +kernel
  · decide +kernel
  · decide +kernel
  · decide +kernel
  · decide +kernel
  · simp [object, bases]

theorem hasClosedBases_abstract (name : String) : (abstract name).HasClosedBases := by
  unfold HasClosedBases
  rw [bases]
  unfold collectionBases
  split
  all_goals first | decide +kernel | simp [object, bases]

theorem hasClosedBases_builtin (name : String) : (builtin name).HasClosedBases := by
  unfold HasClosedBases
  by_cases hobject : name = "object"
  · subst hobject
    decide +kernel
  · by_cases hbool : name = "bool"
    · subst hbool
      decide +kernel
    · have hbases : (builtin name).bases = [object] := by
        unfold bases
        split <;> simp_all
      rw [hbases]
      simp [object, bases, hobject]

/-- The line of a class that is not declared is closed. -/
theorem hasClosedBases {ref : ClassRef} (h : ref.number? = none) : ref.HasClosedBases := by
  cases ref with
  | builtin name => exact hasClosedBases_builtin name
  | abstract name => exact hasClosedBases_abstract name
  | library name => exact hasClosedBases_library name
  | declared number qualname family => cases h
  | _ =>
    unfold HasClosedBases
    decide +kernel

end ClassRef

namespace Module

variable {m n : Module} {qualname : String} {d : Declaration} {ref base : ClassRef} {t : Annotation}

/-! ## Lines of the classes of a module -/

/-- A class of the module by the reference that stands at the head of its line; a class that is not
declared belongs to every module. -/
structure Holds (m : Module) (ref : ClassRef) : Prop where
  number : ∀ number ∈ ref.number?, number < m.classes.length
  head : (m.linear ref).head? = some ref

/-- The order of bases of a library class does not depend on the module. -/
theorem linear_undeclared (m : Module) (h : ref.number? = none) : m.linear ref = ref :: ref.bases := by
  cases ref with
  | declared number qualname family => cases h
  | _ => rfl

theorem holds_undeclared (m : Module) (h : ref.number? = none) : m.Holds ref where
  number := by simp [h]
  head := by rw [m.linear_undeclared h, List.head?_cons]

/-- The line of every class holds the lines of its bases in their order, and no class twice. -/
structure Layered (m : Module) : Prop where
  holds : ∀ ref, m.Holds ref → ∀ base ∈ m.linear ref, m.Holds base
  closed : ∀ ref, m.Holds ref → ∀ base ∈ m.linear ref, (m.linear base).Sublist (m.linear ref)
  nodup : ∀ ref, m.Holds ref → (m.linear ref).Nodup

theorem number?_of_mem_bases {ref base : ClassRef} (h : base ∈ ref.bases) : base.number? = none := by
  cases base with
  | declared number qualname family =>
    have hheld (m : Module) := (class?_of_mem_bases (m := m) h).1
    have hclass := hheld ⟨List.replicate (number + 1) default, [], 0⟩
    simp [class?] at hclass
  | _ => rfl

/-- What a class that is not declared has below it is layered in every module. -/
theorem layered_undeclared (m : Module) (h : ref.number? = none) :
    (∀ base ∈ m.linear ref, m.Holds base ∧ (m.linear base).Sublist (m.linear ref)) ∧
      (m.linear ref).Nodup := by
  obtain ⟨hnodup, hclosed⟩ := ClassRef.hasClosedBases h
  rw [m.linear_undeclared h]
  refine ⟨fun base hbase ↦ ?_, hnodup⟩
  rcases List.mem_cons.mp hbase with rfl | hbase
  · exact ⟨m.holds_undeclared h, by rw [m.linear_undeclared h]⟩
  · have hother := number?_of_mem_bases hbase
    exact ⟨m.holds_undeclared hother, by
      rw [m.linear_undeclared hother]
      exact (hclosed base hbase).cons ref⟩

theorem layered_empty : Layered .empty := by
  have hline (ref : ClassRef) (href : Module.empty.Holds ref) :=
    Module.empty.layered_undeclared (Option.eq_none_iff_forall_not_mem.mpr fun number hnumber ↦
      Nat.not_lt_zero number (href.number number hnumber))
  exact ⟨fun ref href base hbase ↦ ((hline ref href).1 base hbase).1,
    fun ref href base hbase ↦ ((hline ref href).1 base hbase).2, fun ref href ↦ (hline ref href).2⟩

/-- What stands below a declared class in its line comes from its bases, or from its flavour. -/
theorem linearFor_spec {own : ClassRef} {line : List ClassRef} (hm : m.Layered)
    (hbases : ∀ base ∈ d.bases, m.Holds base) (h : m.linearFor own d = .ok line) :
    ∃ below, line = own :: below ∧
      (∀ base ∈ below, m.Holds base ∧ (m.linear base).Sublist below) ∧ below.Nodup := by
  have hrecord (name : String) : m.linearFor own d = .ok (own :: m.linear (.builtin name)) →
      ∃ below, line = own :: below ∧
        (∀ base ∈ below, m.Holds base ∧ (m.linear base).Sublist below) ∧ below.Nodup := by
    intro hline
    exact ⟨_, Except.ok.inj (h.symm.trans hline), m.layered_undeclared rfl⟩
  cases hflavour : d.flavour with
  | typedDict total => exact hrecord "dict" (by simp only [linearFor, hflavour]; rfl)
  | namedTuple => exact hrecord "tuple" (by simp only [linearFor, hflavour]; rfl)
  | _ =>
    simp only [linearFor, hflavour] at h
    split at h
    · cases h
    · rename_i hwhole
      cases h
      obtain ⟨below, rfl, hlines, hmembers, hnodup⟩ := Linear.ofBases_spec hwhole
      refine ⟨below, rfl, fun base hbase ↦ ?_, hnodup⟩
      rcases hmembers base hbase with hdirect | ⟨direct, hdirect, hbase⟩
      · exact ⟨hbases base hdirect, hlines base hdirect⟩
      · have hheld := hbases direct hdirect
        exact ⟨hm.holds direct hheld base hbase,
          (hm.closed direct hheld base hbase).trans (hlines direct hdirect)⟩
    · cases h

/-- Where a class has no line of its own kind, its line holds those of its bases. -/
theorem sublist_of_linearFor {own : ClassRef} {line : List ClassRef} (hbase : base ∈ d.bases)
    (htyped : (d.flavour matches .typedDict _) = false) (htuple : d.flavour ≠ .namedTuple)
    (h : m.linearFor own d = .ok line) : (m.linear base).Sublist line := by
  cases hflavour : d.flavour with
  | typedDict total => simp [hflavour] at htyped
  | namedTuple => exact absurd hflavour htuple
  | _ =>
    simp only [linearFor, hflavour] at h
    split at h
    · cases h
    · rename_i hwhole
      cases h
      obtain ⟨below, rfl, hlines, -⟩ := Linear.ofBases_spec hwhole
      exact (hlines base hbase).cons own
    · cases h

/-! ## Later modules -/

/-- A class is found as before after others are declared. -/
theorem class?_of_extends (h : m.classes <+: n.classes)
    (href : ∀ number ∈ ref.number?, number < m.classes.length) : n.class? ref = m.class? ref := by
  cases ref with
  | declared number qualname family =>
    obtain ⟨later, hlater⟩ := h
    rw [class?, class?, ← hlater]
    exact List.getElem?_append_left (href number rfl)
  | _ => rfl

/-- Earlier classes keep their lines. -/
theorem linear_of_extends (h : m.classes <+: n.classes)
    (href : ∀ number ∈ ref.number?, number < m.classes.length) : n.linear ref = m.linear ref := by
  unfold linear
  rw [class?_of_extends h href]

/-- Classes of a module belong to its extensions. -/
theorem Holds.of_extends (h : m.classes <+: n.classes) (href : m.Holds ref) : n.Holds ref where
  number number hnumber := Nat.lt_of_lt_of_le (href.number number hnumber) h.length_le
  head := by
    rw [linear_of_extends h href.number]
    exact href.head

/-- The bases that a class gets are there already, if those written for it are. -/
theorem holds_of_mem_completed_bases (h : ∀ base ∈ d.bases, m.Holds base) :
    ∀ base ∈ (m.completed d).bases, m.Holds base := by
  have hflavour : ∀ flavour : Flavour, ∀ base, flavour.base? = some base → m.Holds base := by
    intro flavour base hbase
    cases flavour <;> cases hbase <;> exact m.holds_undeclared rfl
  intro base hbase
  change base ∈ basesOf m { d with flavour := m.flavourOf d } at hbase
  unfold basesOf at hbase
  split at hbase
  · rename_i added hadded
    split at hbase
    · exact h base hbase
    · rcases List.mem_append.mp hbase with hbase | hbase
      · exact h base hbase
      · rw [List.mem_singleton.mp hbase]
        exact hflavour _ added hadded
  · split at hbase
    · rw [List.mem_singleton.mp hbase]
      exact m.holds_undeclared rfl
    · exact h base hbase

/-- Lines depend on nothing but the classes. -/
theorem Layered.of_classes_eq (hm : m.Layered) (h : n.classes = m.classes) : n.Layered := by
  have hline (ref : ClassRef) : n.linear ref = m.linear ref := by
    unfold linear class?
    rw [h]
  have hholds (ref : ClassRef) : n.Holds ref ↔ m.Holds ref := by
    constructor
    · rintro ⟨hnumber, hhead⟩
      exact ⟨h ▸ hnumber, hline ref ▸ hhead⟩
    · rintro ⟨hnumber, hhead⟩
      exact ⟨h.symm ▸ hnumber, (hline ref).symm ▸ hhead⟩
  constructor
  · intro ref href base hbase
    rw [hline] at hbase
    exact (hholds base).mpr (hm.holds ref ((hholds ref).mp href) base hbase)
  · intro ref href base hbase
    rw [hline] at hbase
    rw [hline, hline]
    exact hm.closed ref ((hholds ref).mp href) base hbase
  · intro ref href
    rw [hline]
    exact hm.nodup ref ((hholds ref).mp href)

/-- A reference that a longer module holds is an earlier one, or that of the new class. -/
theorem Holds.earlier_or_next {c : Class} {below : List ClassRef} (hclasses : n.classes = m.classes ++ [c])
    (hline : c.linear = m.nextRef qualname d :: below) (href : n.Holds ref) :
    m.Holds ref ∨ ref = m.nextRef qualname d := by
  by_cases hnumber : ∀ number ∈ ref.number?, number < m.classes.length
  · refine .inl ⟨hnumber, ?_⟩
    rw [← linear_of_extends ⟨[c], hclasses.symm⟩ hnumber]
    exact href.head
  · simp only [not_forall, not_lt] at hnumber
    obtain ⟨number, hmem, hlast⟩ := hnumber
    have hlength := href.number number hmem
    rw [hclasses, List.length_append, List.length_singleton] at hlength
    obtain rfl : number = m.classes.length := by omega
    have hhead := href.head
    cases ref with
    | declared number' qualname' family =>
      cases hmem
      rw [linear_declared (c := c) (by simp [hclasses]), hline, List.head?_cons] at hhead
      exact .inr (Option.some.inj hhead).symm
    | _ => cases hmem

variable [Environment]

/-! ## Building a module -/

/-- Modules that are built one name after the other, from classes that are there already. -/
inductive Built : Module → Prop where
  | empty : Built .empty
  | declare {m n : Module} {qualname : String} {d : Declaration} {t : Annotation} (h : Built m)
      (hbases : ∀ base ∈ d.bases, m.Holds base) (hdeclare : m.declare qualname d = .ok (n, t)) : Built n
  | declareAlias {m : Module} (h : Built m) (name : String) (t : Annotation) :
      Built (m.declareAlias name t)
  | declareNewType {m : Module} (h : Built m) (name : String) (t : Annotation) :
      Built (m.declareNewType name t)

/-- One more class keeps the lines as they are, and its own line is layered too. -/
theorem Layered.declare (hm : m.Layered) (hbases : ∀ base ∈ d.bases, m.Holds base)
    (h : m.declare qualname d = .ok (n, t)) : n.Layered := by
  obtain ⟨c, hclasses, hc⟩ := declared_of_declare h
  have hextends : m.classes <+: n.classes := ⟨[c], hclasses.symm⟩
  obtain ⟨below, hline, hbelow, hnodup⟩ :=
    linearFor_spec hm (holds_of_mem_completed_bases hbases) hc.linear
  have hown : n.linear (m.nextRef qualname d) = m.nextRef qualname d :: below := by
    rw [nextRef, linear_declared (c := c) (by simp [hclasses]), hline]
    rfl
  have hcases {ref : ClassRef} (href : n.Holds ref) := href.earlier_or_next hclasses hline
  refine ⟨fun ref href base hbase ↦ ?_, fun ref href base hbase ↦ ?_, fun ref href ↦ ?_⟩
  · rcases hcases href with hearlier | rfl
    · rw [linear_of_extends hextends hearlier.number] at hbase
      exact (hm.holds ref hearlier base hbase).of_extends hextends
    · rw [hown] at hbase
      rcases List.mem_cons.mp hbase with rfl | hbase
      · exact href
      · exact (hbelow base hbase).1.of_extends hextends
  · rcases hcases href with hearlier | rfl
    · rw [linear_of_extends hextends hearlier.number] at hbase ⊢
      rw [linear_of_extends hextends (hm.holds ref hearlier base hbase).number]
      exact hm.closed ref hearlier base hbase
    · rw [hown] at hbase ⊢
      rcases List.mem_cons.mp hbase with rfl | hbase
      · rw [hown]
      · rw [linear_of_extends hextends (hbelow base hbase).1.number]
        exact (hbelow base hbase).2.cons _
  · rcases hcases href with hearlier | rfl
    · rw [linear_of_extends hextends hearlier.number]
      exact hm.nodup ref hearlier
    · rw [hown]
      refine List.nodup_cons.mpr ⟨fun hagain ↦ ?_, hnodup⟩
      exact Nat.lt_irrefl _ ((hbelow _ hagain).1.number _ rfl)

/-- Every module that is built has the lines of bases inside the lines below them. -/
theorem Built.layered (h : m.Built) : m.Layered := by
  induction h with
  | empty => exact layered_empty
  | declare _ hbases hdeclare ih => exact ih.declare hbases hdeclare
  | declareAlias _ _ _ ih => exact ih.of_classes_eq rfl
  | declareNewType _ _ _ ih => exact ih.of_classes_eq rfl

/-- Every class was declared in a module that had been built before. -/
theorem Built.exists_declared (h : n.Built) {number : Nat} {c : Class}
    (hclass : n.classes[number]? = some c) :
    ∃ m qualname d, m.Built ∧ (∀ base ∈ d.bases, m.Holds base) ∧ m.classes <+: n.classes ∧
      m.classes.length = number ∧ Declared m qualname d c := by
  induction h with
  | empty => simp [Module.empty] at hclass
  | @declare earlier later qualname d t hearlier hbases hdeclare ih =>
    obtain ⟨added, hclasses, hadded⟩ := declared_of_declare hdeclare
    have hextends : earlier.classes <+: later.classes := ⟨[added], hclasses.symm⟩
    rw [hclasses] at hclass
    by_cases hnumber : number < earlier.classes.length
    · rw [List.getElem?_append_left hnumber] at hclass
      obtain ⟨m, qualname, d, hm, hheld, hfront, hlast, hc⟩ := ih hclass
      exact ⟨m, qualname, d, hm, hheld, hfront.trans hextends, hlast, hc⟩
    · rw [List.getElem?_append_right (Nat.not_lt.mp hnumber), List.getElem?_singleton] at hclass
      split at hclass
      · cases hclass
        exact ⟨earlier, qualname, d, hearlier, hbases, hextends, by omega, hadded⟩
      · cases hclass
  | declareAlias _ _ _ ih => exact ih hclass
  | declareNewType _ _ _ ih => exact ih hclass

/-- Whatever a class has in its line below itself was there when it was declared. -/
theorem Declared.holds_of_mem_tail {c : Class} (hm : m.Built) (hbases : ∀ base ∈ d.bases, m.Holds base)
    (hc : Declared m qualname d c) : ∀ base ∈ c.linear.drop 1, m.Holds base := by
  obtain ⟨below, hline, hbelow, -⟩ :=
    linearFor_spec hm.layered (holds_of_mem_completed_bases hbases) hc.linear
  rw [hline]
  exact fun base hbase ↦ (hbelow base hbase).1

/-- A declaration does not touch the classes that are there. -/
theorem prefix_atDeclaration (m : Module) (qualname : String) (d : Declaration) :
    m.classes <+: (m.atDeclaration qualname d).classes := by
  unfold atDeclaration
  split
  · exact List.prefix_append _ _
  · exact List.prefix_rfl

end Module

end Schematic
