import Schematic.Proofs.CollectedFields
import Schematic.Proofs.Linearization

/-!
# Texts of inherited members

The texts of a class's attributes are found along its line of bases, the nearest text first. The line
of a class holds the lines of its bases in their order, so an inherited member has the text that the
base has for it, unless a class of another line steps in between. Typed dictionaries have a line of
their own, without their bases: there an inherited member has no text at all. A model's field also
hands on the name and the description that its declaration gives, as long as no class on the way
declares the name again.
-/

namespace Schematic

namespace Linear

variable {α β : Type} {part line : List α} {f : α → Option β}

/-- A search along a line finds what a search along a part of it finds, if whatever else has an
answer comes later than something of the part that has one. -/
theorem findSome?_eq_of_sublist (hpart : part.Sublist line) (hline : line.Nodup)
    (hothers : ∀ other ∈ line, other ∉ part → (f other).isSome →
      ∃ entry ∈ part, (f entry).isSome ∧ [entry, other].Sublist line) :
    line.findSome? f = part.findSome? f := by
  have hlater {entry first other : α} {rest : List α} (hne : entry ≠ first)
      (h : [entry, other].Sublist (first :: rest)) : [entry, other].Sublist rest := by
    cases h with
    | cons _ h => exact h
    | cons_cons _ _ => exact absurd rfl hne
  induction hpart with
  | slnil => rfl
  | @cons part rest first hpart ih =>
    obtain ⟨hfirst, hrest⟩ := List.nodup_cons.mp hline
    have hnotPart : first ∉ part := fun h ↦ hfirst (hpart.subset h)
    have hne {entry : α} (hentry : entry ∈ part) : entry ≠ first :=
      fun heq ↦ hnotPart (heq ▸ hentry)
    have hnone : f first = none := by
      by_contra hsome
      obtain ⟨entry, hentry, -, hbefore⟩ :=
        hothers first List.mem_cons_self hnotPart (Option.isSome_iff_ne_none.mpr hsome)
      exact hfirst ((hlater (hne hentry) hbefore).subset (by simp))
    rw [List.findSome?_cons, hnone]
    refine ih hrest fun other hother hout hsome ↦ ?_
    obtain ⟨entry, hentry, hfound, hbefore⟩ := hothers other (List.mem_cons_of_mem _ hother) hout hsome
    exact ⟨entry, hentry, hfound, hlater (hne hentry) hbefore⟩
  | @cons_cons part rest first hpart ih =>
    obtain ⟨hfirst, hrest⟩ := List.nodup_cons.mp hline
    rw [List.findSome?_cons, List.findSome?_cons]
    cases hown : f first with
    | some value => rfl
    | none =>
      refine ih hrest fun other hother hout hsome ↦ ?_
      have hnotFirst : other ≠ first := fun heq ↦ hfirst (heq ▸ hother)
      obtain ⟨entry, hentry, hfound, hbefore⟩ :=
        hothers other (List.mem_cons_of_mem _ hother) (by simp [hnotFirst, hout]) hsome
      have hne : entry ≠ first := by
        rintro rfl
        simp [hown] at hfound
      exact ⟨entry, (List.mem_cons.mp hentry).resolve_left hne, hfound, hlater hne hbefore⟩

end Linear

namespace Module

variable {m n : Module} {ref base between : ClassRef} {name : String} {docs : Dict String}

/-- The documentation of a member is the parsed text of its attribute. -/
theorem member_symbol (name : String) (t : Annotation) (optional : Bool) (doc : Option String) :
    (member name t optional doc).symbol = Docstring.parseOption doc name := by
  unfold member
  split <;> rfl

theorem member_name (name : String) (t : Annotation) (optional : Bool) (doc : Option String) :
    (member name t optional doc).name = name := by
  unfold member
  split <;> rfl

/-- The first entry with an answer gives it. -/
theorem findSome?_of_find? {α β : Type} {f : α → Option β} {line : List α} {entry : α}
    (h : line.find? (fun other ↦ (f other).isSome) = some entry) : line.findSome? f = f entry := by
  induction line with
  | nil => cases h
  | cons first rest ih =>
    rw [List.find?_cons] at h
    rw [List.findSome?_cons]
    cases hfirst : f first with
    | none =>
      rw [hfirst] at h
      exact ih h
    | some value =>
      rw [hfirst] at h
      cases h
      exact hfirst.symm

/-- Later classes do not change the fields of earlier ones. -/
theorem fieldOf?_of_extends (hextends : m.classes <+: n.classes) (hbase : m.Holds base) (name : String) :
    n.fieldOf? base name = m.fieldOf? base name := by
  rw [fieldOf?, fieldOf?, class?_of_extends hextends hbase.number]

theorem isModel_of_sublist (h : (n.linear base).Sublist (n.linear ref))
    (hmodel : n.isModel base = true) : n.isModel ref = true := by
  obtain ⟨entry, hentry, hsame⟩ := List.any_eq_true.mp hmodel
  exact List.any_eq_true.mpr ⟨entry, h.subset hentry, hsame⟩

theorem holds_declared {number : Nat} {qualname : String} {family : Family}
    (h : number < m.classes.length ∧
      (m.linear (.declared number qualname family)).head? = some (.declared number qualname family)) :
    m.Holds (.declared number qualname family) :=
  ⟨fun _ hnumber ↦ by cases hnumber; exact h.1, h.2⟩

section

variable [Environment]

/-! ## Texts along a line -/

/-- The text that a class itself has for a name. -/
def ownDoc? (m : Module) (ref : ClassRef) (name : String) : Option String :=
  Dict.get? name (Dict.ofList (m.ownAttributeDocs ref).1)

/-- The text of a name comes from the first class in the order of bases that documents it. -/
theorem get?_attributeDocs (h : (m.attributeDocs ref).outcome = .ok docs) (name : String) :
    Dict.get? name docs = (m.linear ref).findSome? (m.ownDoc? · name) := by
  cases h
  rw [List.flatMap_map, Dict.get?_ofList_reverse_flatMap]
  rfl

/-- Members are reported in one way, whatever the class, and with the text that the class has for their
names unless it is a model. -/
theorem exists_eq_member {members : List (Member Annotation)} {entry : Member Annotation}
    (hmembers : (m.classMembers ref).outcome = .ok members) (hentry : entry ∈ members) :
    ∃ docs name t optional doc, (m.attributeDocs ref).outcome = .ok docs ∧
      member name t optional doc = entry ∧
      (m.isModel ref = false → doc = Dict.get? name docs) := by
  unfold classMembers at hmembers
  split at hmembers
  · cases hmembers
    cases hentry
  split at hmembers
  · rename_i hmodel
    obtain ⟨docs, hdocs, hmembers⟩ := Logged.bind_eq_ok_iff.mp hmembers
    cases hmembers
    obtain ⟨field, -, heq⟩ := List.mem_map.mp hentry
    exact ⟨docs, _, _, _, _, hdocs, heq, fun hother ↦ by cases hmodel.symm.trans hother⟩
  · obtain ⟨hints, -, hmembers⟩ := Logged.bind_eq_ok_iff.mp hmembers
    obtain ⟨docs, hdocs, hmembers⟩ := Logged.bind_eq_ok_iff.mp hmembers
    split at hmembers
    · cases hmembers
      obtain ⟨hint, -, heq⟩ := List.mem_map.mp hentry
      exact ⟨docs, _, _, _, _, hdocs, heq, fun _ ↦ rfl⟩
    · split at hmembers <;> cases hmembers
      · obtain ⟨field, -, heq⟩ := List.mem_map.mp hentry
        exact ⟨docs, _, _, _, _, hdocs, heq, fun _ ↦ rfl⟩
      · obtain ⟨hint, -, heq⟩ := List.mem_map.mp hentry
        exact ⟨docs, _, _, _, _, hdocs, heq, fun _ ↦ rfl⟩

/-- A member of a class that is no model goes by the nearest text for its name. -/
theorem symbol_of_mem_classMembers {members : List (Member Annotation)} {entry : Member Annotation}
    (hmodel : m.isModel ref = false) (hmembers : (m.classMembers ref).outcome = .ok members)
    (hentry : entry ∈ members) :
    entry.symbol =
      Docstring.parseOption ((m.linear ref).findSome? (m.ownDoc? · entry.name)) entry.name := by
  obtain ⟨docs, name, t, optional, doc, hdocs, rfl, hdoc⟩ := exists_eq_member hmembers hentry
  rw [member_symbol, member_name, hdoc hmodel, get?_attributeDocs hdocs]

/-! ## Fields of models -/

theorem Built.nodup_modelFields (hn : n.Built) {c : Class} {fields : Dict ModelField}
    (hclass : n.class? ref = some c) (hfields : c.modelFields = some fields) :
    (Dict.keys fields).Nodup := by
  obtain ⟨number, qualname, family, rfl, hnumber⟩ := exists_number_of_class? hclass
  obtain ⟨m, qualname, d, -, -, -, -, hc⟩ := hn.exists_declared hnumber
  by_cases hmodel : (m.completed d).flavour = .model
  · obtain ⟨collected, hheld, -⟩ := hc.modelFields hmodel
    cases hheld.symm.trans hfields
    exact Dict.nodup_keys_ofList collected
  · cases (hc.noModelFields hmodel).symm.trans hfields

/-! ## Taking members over -/

/-- A class takes a member over from a direct base: it does not declare the name again nor documents
it, and if it is a model, no base that stands before has a field of that name. -/
structure TakesOver (m : Module) (name : String) (ref base : ClassRef) (c : Class) : Prop where
  declared : m.class? ref = some c
  mem_bases : base ∈ c.declaration.bases
  unannotated : Dict.contains name c.declaration.ownAnnotations = false
  unbound : c.declaration.initial? name = none
  undocumented : m.ownDoc? ref name = none
  typedDict : m.isTypedDict base = m.isTypedDict ref
  noTuple : c.declaration.flavour ≠ .namedTuple
  nearest : m.isModel ref = true →
    c.declaration.bases.find? (fun other ↦ (m.fieldOf? other name).isSome) = some base

/-- A class inherits a member through a chain of bases. -/
inductive Inherits (m : Module) (name : String) : ClassRef → ClassRef → Prop where
  | direct {ref base : ClassRef} {c : Class} (h : m.TakesOver name ref base c) :
      Inherits m name ref base
  | through {ref between base : ClassRef} {c : Class} (h : m.TakesOver name ref between c)
      (hrest : Inherits m name between base) : Inherits m name ref base

/-- What a class takes over from is a class of the module, and stands in its line with all its bases. -/
theorem TakesOver.sublist_linear (hn : n.Built) {c : Class} (h : n.TakesOver name ref base c) :
    n.Holds base ∧ (n.isTypedDict ref = false → (n.linear base).Sublist (n.linear ref)) := by
  obtain ⟨number, qualname', family, rfl, hnumber⟩ := exists_number_of_class? h.declared
  obtain ⟨m, qualname, d, hm, hbases, hextends, -, hc⟩ := hn.exists_declared hnumber
  have hmem : base ∈ (m.completed d).bases := hc.declaration ▸ h.mem_bases
  have hheld := holds_of_mem_completed_bases hbases base hmem
  refine ⟨hheld.of_extends hextends, fun hplain ↦ ?_⟩
  rw [linear_declared hnumber, linear_of_extends hextends hheld.number]
  refine sublist_of_linearFor hmem ?_ ?_ hc.linear
  · rw [isTypedDict, h.declared, Option.map_some, Option.getD_some, hc.declaration] at hplain
    exact hplain
  · rw [← hc.declaration]
    exact h.noTuple

/-- Along a chain of bases the order of bases is kept. -/
theorem Inherits.sublist_linear (hn : n.Built) (h : n.Inherits name ref base)
    (hplain : n.isTypedDict ref = false) : (n.linear base).Sublist (n.linear ref) := by
  induction h with
  | direct h => exact (h.sublist_linear hn).2 hplain
  | through h _ ih => exact (ih (h.typedDict.trans hplain)).trans ((h.sublist_linear hn).2 hplain)

/-- Fewer classes have no more attributes. -/
theorem inheritsAttribute_of_subset {line line' : List ClassRef} (h : line ⊆ line')
    (hattribute : n.inheritsAttribute line' name = false) : n.inheritsAttribute line name = false := by
  rw [inheritsAttribute, Bool.or_eq_false_iff, List.any_eq_false] at hattribute ⊢
  exact ⟨hattribute.1, fun entry hentry ↦ hattribute.2 entry (h hentry)⟩

theorem inheritsAttribute_of_extends {line : List ClassRef} (hextends : m.classes <+: n.classes)
    (hline : ∀ base ∈ line, m.Holds base) (name : String) :
    n.inheritsAttribute line name = m.inheritsAttribute line name := by
  have hmap : line.map (fun base ↦ (n.ownAttributes base).contains name) =
      line.map fun base ↦ (m.ownAttributes base).contains name :=
    List.map_congr_left fun base hbase ↦ by
      rw [ownAttributes, ownAttributes, class?_of_extends hextends (hline base hbase).number]
  unfold inheritsAttribute
  simpa only [List.any_map, Function.id_comp] using
    congrArg (commonAttributes.contains name || List.any · id) hmap

/-- The field of a model that takes a member over has the public name and the description that the
field of the base has. -/
theorem TakesOver.exists_fieldOf? (hcollected : Environment.HandsFieldsOn) (hn : n.Built) {c : Class}
    {field : ModelField} (h : n.TakesOver name ref base c) (hmodel : n.isModel ref = true)
    (hattribute : n.hasAttribute ref name = false) (hfield : n.fieldOf? ref name = some field) :
    ∃ inherited, n.fieldOf? base name = some inherited ∧
      field.publicName = inherited.publicName ∧ field.description = inherited.description := by
  obtain ⟨number, qualname', family, rfl, hnumber⟩ := exists_number_of_class? h.declared
  obtain ⟨m, qualname, d, hm, hbases, hextends, -, hc⟩ := hn.exists_declared hnumber
  obtain ⟨fields, hfields, hfound⟩ := Option.bind_eq_some_iff.mp hfield
  rw [h.declared, Option.bind_some] at hfields
  have hflavour : (m.completed d).flavour = .model := by
    by_contra hother
    cases (hc.noModelFields hother).symm.trans hfields
  obtain ⟨collected, hheld, hmade⟩ := hc.modelFields hflavour
  cases hheld.symm.trans hfields
  -- When the fields were made, the class had the line that it has now, and the bases their fields.
  obtain ⟨outline, houtline, houtlined⟩ := hc.outline
  have hat := m.prefix_atDeclaration qualname d
  have hline : (m.atDeclaration qualname d).linear (m.nextRef qualname d) = c.linear := by
    rw [nextRef, linear_declared houtline]
    exact Except.ok.inj (houtlined.linear.symm.trans hc.linear)
  have hfieldOf (other : ClassRef) (hother : other ∈ (m.completed d).bases) :
      (m.atDeclaration qualname d).fieldOf? other name = n.fieldOf? other name := by
    have hholds := holds_of_mem_completed_bases hbases other hother
    rw [fieldOf?_of_extends hat hholds, fieldOf?_of_extends hextends hholds]
  have hnearest := h.nearest hmodel
  obtain ⟨inherited, hinherited⟩ := Option.isSome_iff_exists.mp
    (List.find?_some (p := fun other ↦ (n.fieldOf? other name).isSome) hnearest)
  refine ⟨inherited, hinherited, hcollected hmade ⟨?_, ?_, ?_⟩ ?_ hfound⟩
  · rw [← hc.declaration]
    exact h.unannotated
  · rw [← hc.declaration]
    exact h.unbound
  · have htail := hc.holds_of_mem_tail hm hbases
    rw [hline, inheritsAttribute_of_extends hat htail, ← inheritsAttribute_of_extends hextends htail]
    rw [hasAttribute, linear_declared hnumber] at hattribute
    exact inheritsAttribute_of_subset (List.drop_subset 1 _) hattribute
  · have hfirst : (m.completed d).bases.findSome? ((m.atDeclaration qualname d).fieldOf? · name) =
        (m.completed d).bases.findSome? (n.fieldOf? · name) := by
      simpa only [List.findSome?_map, Function.id_comp] using
        congrArg (List.findSome? id) (List.map_congr_left hfieldOf)
    rw [hfirst, ← hc.declaration, findSome?_of_find? hnearest]
    exact hinherited

/-- A base has no attributes that a class lacks. -/
theorem hasAttribute_of_sublist (h : (n.linear base).Sublist (n.linear ref))
    (hattribute : n.hasAttribute ref name = false) : n.hasAttribute base name = false :=
  inheritsAttribute_of_subset h.subset hattribute

/-- Through a chain of bases, the field of a model keeps the public name and the description that the
last one of them has for it. -/
theorem Inherits.exists_fieldOf? (hcollected : Environment.HandsFieldsOn) (hn : n.Built)
    {field : ModelField} (h : n.Inherits name ref base) (hmodel : n.isModel base = true)
    (hplain : n.isTypedDict ref = false) (hattribute : n.hasAttribute ref name = false)
    (hfield : n.fieldOf? ref name = some field) :
    ∃ inherited, n.fieldOf? base name = some inherited ∧
      field.publicName = inherited.publicName ∧ field.description = inherited.description := by
  induction h generalizing field with
  | direct h =>
    have hline := (h.sublist_linear hn).2 hplain
    exact h.exists_fieldOf? hcollected hn (isModel_of_sublist hline hmodel) hattribute hfield
  | through h hrest ih =>
    have hline := (h.sublist_linear hn).2 hplain
    have hbelow := hrest.sublist_linear hn (h.typedDict.trans hplain)
    obtain ⟨between, hbetween, hname, hdescription⟩ :=
      h.exists_fieldOf? hcollected hn (isModel_of_sublist (hbelow.trans hline) hmodel) hattribute hfield
    obtain ⟨inherited, hinherited, hname', hdescription'⟩ :=
      ih hmodel (h.typedDict.trans hplain) (hasAttribute_of_sublist hline hattribute) hbetween
    exact ⟨inherited, hinherited, hname.trans hname', hdescription.trans hdescription'⟩

/-! ## Reported members -/

/-- A member that a class reports for a name: a model reports its fields in their order, under the
names that they are known by outside, and other classes report members under their own names. -/
inductive Reports (m : Module) (ref : ClassRef) (name : String) (entry : Member Annotation) : Prop where
  | named (members : List (Member Annotation)) (hmodel : m.isModel ref = false)
      (hmembers : (m.classMembers ref).outcome = .ok members) (hentry : entry ∈ members)
      (hname : entry.name = name)
  | field (members : List (Member Annotation)) (c : Class) (fields : Dict ModelField) (place : Nat)
      (hmodel : m.isModel ref = true) (hclass : m.class? ref = some c)
      (hfields : c.modelFields = some fields)
      (hmembers : (m.classMembers ref).outcome = .ok members) (hentry : members[place]? = some entry)
      (hname : (Dict.keys fields)[place]? = some name)

/-- The symbol of a member that a model reports for a field. -/
theorem Reports.symbol_of_field (hn : n.Built) {entry : Member Annotation}
    (hmodel : n.isModel ref = true) (h : n.Reports ref name entry) :
    ∃ field, n.fieldOf? ref name = some field ∧ entry.symbol =
      Docstring.parseOption
        ((filled ((n.linear ref).findSome? (n.ownDoc? · name))).or field.description)
        ((filled field.publicName).getD name) := by
  cases h with
  | named _ hother => cases hmodel.symm.trans hother
  | field members c fields place _ hclass hfields hmembers hentry hname =>
    have hplain : ClassRef.mappings.contains ref = false := by
      obtain ⟨number, qualname, family, rfl, -⟩ := exists_number_of_class? hclass
      simp [ClassRef.mappings]
    unfold classMembers at hmembers
    rw [hplain, hmodel, if_neg (by simp), if_pos rfl] at hmembers
    obtain ⟨docs, hdocs, hmembers⟩ := Logged.bind_eq_ok_iff.mp hmembers
    rw [hclass, Option.bind_some, hfields] at hmembers
    cases hmembers
    unfold modelMembers at hentry
    rw [Option.getD_some, List.getElem?_map] at hentry
    rw [Dict.keys, List.getElem?_map] at hname
    obtain ⟨⟨known, field⟩, hheld, hname⟩ := Option.map_eq_some_iff.mp hname
    cases hname
    rw [hheld] at hentry
    cases hentry
    refine ⟨field, ?_, ?_⟩
    · rw [fieldOf?, hclass, Option.bind_some, hfields, Option.bind_some]
      exact Dict.get?_eq_some_of_mem (hn.nodup_modelFields hclass hfields)
        (List.mem_of_getElem? hheld)
    · rw [member_symbol, get?_attributeDocs hdocs]

/-- A typed dictionary finds texts nowhere but in its own body. -/
theorem Built.findSome?_ownDoc?_of_typedDict (hn : n.Built) (href : n.Holds ref)
    (htyped : n.isTypedDict ref = true) (name : String) :
    n.isModel ref = false ∧ (n.linear ref).findSome? (n.ownDoc? · name) = n.ownDoc? ref name := by
  cases hclass : n.class? ref with
  | none =>
    rw [isTypedDict, hclass] at htyped
    cases htyped
  | some c =>
    obtain ⟨number, qualname', family, rfl, hnumber⟩ := exists_number_of_class? hclass
    obtain ⟨m, qualname, d, -, -, -, -, hc⟩ := hn.exists_declared hnumber
    rw [isTypedDict, hclass, Option.map_some, Option.getD_some, hc.declaration] at htyped
    cases hflavour : (m.completed d).flavour with
    | typedDict total =>
      have hline := hc.linear
      unfold linearFor at hline
      rw [hflavour] at hline
      have hown := href.head
      rw [linear_declared hnumber, ← Except.ok.inj hline, List.head?_cons] at hown
      rw [isModel, derives, linear_declared hnumber, ← Except.ok.inj hline, Option.some.inj hown]
      refine ⟨rfl, ?_⟩
      rw [List.findSome?_cons]
      cases n.ownDoc? (.declared number qualname' family) name <;> rfl
    | _ =>
      rw [hflavour] at htyped
      cases htyped

/-- No class besides a base and its own bases has a say in the text for a name: whichever has a text
for it comes after one of these that has one. -/
def KeepsText (m : Module) (name : String) (ref base : ClassRef) : Prop :=
  ∀ other ∈ m.linear ref, other ∉ m.linear base → (m.ownDoc? other name).isSome →
    ∃ entry ∈ m.linear base, (m.ownDoc? entry name).isSome ∧ [entry, other].Sublist (m.linear ref)

instance (m : Module) (name : String) (ref base : ClassRef) : Decidable (m.KeepsText name ref base) :=
  inferInstanceAs (Decidable (∀ other ∈ m.linear ref, other ∉ m.linear base →
    (m.ownDoc? other name).isSome → ∃ entry ∈ m.linear base,
      (m.ownDoc? entry name).isSome ∧ [entry, other].Sublist (m.linear ref)))

/-- A member that a class inherits through a chain of bases goes by the symbol that it has in the base;
in a typed dictionary, by none. -/
theorem symbol_of_inherits (hcollected : Environment.HandsFieldsOn) (hn : n.Built) (href : n.Holds ref) (h : n.Inherits name ref base)
    (hflavour : n.isModel ref = n.isModel base)
    (hattribute : n.isModel ref = true → n.hasAttribute ref name = false)
    (htext : n.isTypedDict ref = false → n.KeepsText name ref base)
    {entry inherited : Member Annotation} (hentry : n.Reports ref name entry)
    (hinherited : n.Reports base name inherited) :
    entry.symbol = if n.isTypedDict ref then none else inherited.symbol := by
  have hnamed {ref : ClassRef} {entry : Member Annotation} (hmodel : n.isModel ref = false)
      (hentry : n.Reports ref name entry) : entry.symbol =
        Docstring.parseOption ((n.linear ref).findSome? (n.ownDoc? · name)) name := by
    cases hentry with
    | named members _ hmembers hentry hname =>
      rw [symbol_of_mem_classMembers hmodel hmembers hentry, hname]
    | field _ _ _ _ hother => cases hmodel.symm.trans hother
  cases htyped : n.isTypedDict ref with
  | true =>
    obtain ⟨hmodel, htexts⟩ := hn.findSome?_ownDoc?_of_typedDict href htyped name
    have hundocumented : n.ownDoc? ref name = none := by
      cases h with
      | direct h => exact h.undocumented
      | through h => exact h.undocumented
    rw [hnamed hmodel hentry, htexts, hundocumented]
    rfl
  | false =>
    have hline := h.sublist_linear hn htyped
    have htexts := Linear.findSome?_eq_of_sublist hline (hn.layered.nodup ref href) (htext htyped)
    cases hmodel : n.isModel ref with
    | false =>
      rw [hnamed hmodel hentry, hnamed (hflavour.symm.trans hmodel) hinherited, htexts]
      rfl
    | true =>
      have hbase := hflavour.symm.trans hmodel
      obtain ⟨field, hfield, hsymbol⟩ := hentry.symbol_of_field hn hmodel
      obtain ⟨field', hfield', hsymbol'⟩ := hinherited.symbol_of_field hn hbase
      obtain ⟨found, hfound, hname, hdescription⟩ :=
        h.exists_fieldOf? hcollected hn hbase htyped (hattribute hmodel) hfield
      cases hfound.symm.trans hfield'
      rw [hsymbol, hsymbol', htexts, hname, hdescription]
      rfl

/-! ## A number that is handed on -/

/-- The member that a class which is no model reports under a name. -/
def memberNamed? (m : Module) (ref : ClassRef) (name : String) : Option (Member Annotation) :=
  match (m.classMembers ref).outcome with
  | .ok members => members.find? (·.name = name)
  | .error _ => none

theorem Reports.of_memberNamed? {entry : Member Annotation} (hmodel : m.isModel ref = false)
    (h : m.memberNamed? ref name = some entry) : m.Reports ref name entry := by
  unfold memberNamed? at h
  split at h
  · rename_i members hmembers
    have hname : decide (entry.name = name) = true :=
      List.find?_some (p := fun entry : Member Annotation ↦ decide (entry.name = name)) h
    exact .named members hmodel hmembers (List.mem_of_find?_eq_some h) (of_decide_eq_true hname)
  · cases h

theorem Built.declaring (hm : m.Built) {qualname : String} {d : Declaration}
    (hbases : ∀ base ∈ d.bases, m.Holds base) : (m.declaring qualname d).Built := by
  unfold Module.declaring
  split
  · rename_i hdeclare
    exact hm.declare hbases hdeclare
  · exact hm

/-- Whether a class that is no model takes a member over can be computed. -/
theorem exists_takesOver (h : m.isModel ref = false ∧ m.ownDoc? ref name = none ∧
      m.isTypedDict base = m.isTypedDict ref ∧
      (m.class? ref).any (fun c ↦ c.declaration.bases.contains base &&
        !Dict.contains name c.declaration.ownAnnotations && (c.declaration.initial? name).isNone &&
        c.declaration.flavour ≠ .namedTuple) = true) : ∃ c, m.TakesOver name ref base c := by
  obtain ⟨hmodel, hundocumented, htyped, hclass⟩ := h
  obtain ⟨c, hclass, hc⟩ := (Option.any_eq_true _ _).mp hclass
  simp only [Bool.and_eq_true, List.contains_iff_mem, Bool.not_eq_true', Option.isNone_iff_eq_none,
    decide_eq_true_eq] at hc
  obtain ⟨⟨⟨hbase, hunannotated⟩, hunbound⟩, htuple⟩ := hc
  exact ⟨c, hclass, hbase, hunannotated, hunbound, hundocumented, htyped, htuple,
    fun h ↦ absurd h (by simp [hmodel])⟩

/-- A class with one number, which may have a text. -/
def numberClass (flavour : Flavour) (name : String) (bases : List ClassRef) (member : String)
    (text : Option String) : Declaration where
  name := name
  flavour := flavour
  bases := bases
  doc := none
  body := .annotated member (.cls (.builtin "int")) .none ::
    (text.map fun text ↦ Statement.constant (.str text)).toList
  source := .faithful

end

attribute [local instance] Environment.plain

/-- A dataclass that derives from another one and from a class that has the same number. -/
def layeredClasses : Module :=
  let first := Module.empty.declaring "B" (numberClass (.dataclass false) "B" [] "x" (some "@minimum 0"))
  let second := first.declaring "C" (numberClass (.dataclass false) "C" [.declared 0 "B" .ordinary] "y" none)
  let third := second.declaring "Z" (numberClass (.dataclass false) "Z" [] "x" (some "@minimum 5"))
  third.declaring "D" (numberClass (.dataclass false) "D"
    [.declared 1 "C" .ordinary, .declared 2 "Z" .ordinary] "z" none)

theorem built_layeredClasses : layeredClasses.Built := by
  unfold layeredClasses
  dsimp only
  refine .declaring (.declaring (.declaring (.declaring .empty ?_) ?_) ?_) ?_
  · intro base hbase
    cases hbase
  · intro base hbase
    rw [List.mem_singleton.mp hbase]
    exact holds_declared (by decide +kernel)
  · intro base hbase
    cases hbase
  · intro base hbase
    rcases List.mem_pair.mp hbase with rfl | rfl
    · exact holds_declared (by decide +kernel)
    · exact holds_declared (by decide +kernel)

theorem inherits_layeredClasses :
    layeredClasses.Inherits "x" (.declared 3 "D" .ordinary) (.declared 0 "B" .ordinary) := by
  obtain ⟨c, hc⟩ : ∃ c, layeredClasses.TakesOver "x" (.declared 3 "D" .ordinary)
      (.declared 1 "C" .ordinary) c :=
    exists_takesOver (by decide +kernel)
  obtain ⟨b, hb⟩ : ∃ b, layeredClasses.TakesOver "x" (.declared 1 "C" .ordinary)
      (.declared 0 "B" .ordinary) b :=
    exists_takesOver (by decide +kernel)
  exact .through hc (.direct hb)

theorem symbol_of_inherits_layered : ∃ entry inherited,
    layeredClasses.Reports (.declared 3 "D" .ordinary) "x" entry ∧
    layeredClasses.Reports (.declared 0 "B" .ordinary) "x" inherited ∧
    entry.symbol = inherited.symbol ∧ inherited.symbol.isSome = true := by
  have hreported : (layeredClasses.memberNamed? (.declared 3 "D" .ordinary) "x").isSome = true ∧
      (layeredClasses.memberNamed? (.declared 0 "B" .ordinary) "x").any (·.symbol.isSome) = true := by
    decide +kernel
  obtain ⟨entry, hentry⟩ := Option.isSome_iff_exists.mp hreported.1
  obtain ⟨inherited, hinherited, hsymbol⟩ := (Option.any_eq_true _ _).mp hreported.2
  have hderived := Reports.of_memberNamed? (by decide +kernel) hentry
  have hbase := Reports.of_memberNamed? (by decide +kernel) hinherited
  refine ⟨entry, inherited, hderived, hbase, ?_, hsymbol⟩
  exact symbol_of_inherits handsFieldsOn_plain built_layeredClasses
    (holds_declared (by decide +kernel)) inherits_layeredClasses
    (by decide +kernel) (fun hmodel ↦ absurd hmodel (by decide +kernel))
    (fun _ ↦ by decide +kernel) hderived hbase

def layeredDicts : Module :=
  (Module.empty.declaring "B" (numberClass (.typedDict true) "B" [] "x" (some "@minimum 0"))).declaring
    "D" (numberClass (.typedDict true) "D" [.declared 0 "B" .typedDict] "y" none)

/-- A typed dictionary loses the texts of its bases. -/
theorem symbol_of_inherits_lost :
    layeredDicts.Inherits "x" (.declared 1 "D" .typedDict) (.declared 0 "B" .typedDict) ∧
      ∃ entry inherited, layeredDicts.Reports (.declared 1 "D" .typedDict) "x" entry ∧
        layeredDicts.Reports (.declared 0 "B" .typedDict) "x" inherited ∧
        entry.symbol = none ∧ inherited.symbol.isSome = true := by
  obtain ⟨c, hc⟩ : ∃ c, layeredDicts.TakesOver "x" (.declared 1 "D" .typedDict)
      (.declared 0 "B" .typedDict) c := exists_takesOver (by decide +kernel)
  have hreported : (layeredDicts.memberNamed? (.declared 1 "D" .typedDict) "x").any
        (·.symbol.isNone) = true ∧
      (layeredDicts.memberNamed? (.declared 0 "B" .typedDict) "x").any (·.symbol.isSome) = true := by
    decide +kernel
  obtain ⟨entry, hentry, hlost⟩ := (Option.any_eq_true _ _).mp hreported.1
  obtain ⟨inherited, hinherited, hsymbol⟩ := (Option.any_eq_true _ _).mp hreported.2
  exact ⟨.direct hc, entry, inherited, .of_memberNamed? (by decide +kernel) hentry,
    .of_memberNamed? (by decide +kernel) hinherited, Option.isNone_iff_eq_none.mp hlost, hsymbol⟩

end Module

end Schematic
