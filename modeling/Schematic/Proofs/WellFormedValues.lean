import Schematic.Proofs.Linearization

/-!
# Well-formed values

A member of an enumeration that derives from a kind of plain values stands for a value of that kind,
since the value that it is declared with is converted first. So no member of such an enumeration
stands for a truth value, whatever its body binds. What the members of a built module stand for is
well-formed if what the bodies of its classes bind is.
-/

namespace Schematic

/-- The values that a member of an enumeration may stand for. -/
def Mixin.admits : Mixin → Value → Bool
  | .none, _ => true
  | .integer, .int _ => true
  | .real, .float _ => true
  | .complex, .complex .. => true
  | .text, .str _ => true
  | .bytes, .bytes _ => true
  | .tuple, .tuple _ => true
  | .list, .list _ => true
  | _, _ => false

/-- Every member stands for a value of the kind that its enumeration derives from. -/
def Value.WellFormed : Value → Prop
  | .member owner _ value => owner.mixin.admits value = true ∧ WellFormed value
  | _ => True

/-- A plain value is no member. -/
theorem Mixin.wellFormed_of_admits {mixin : Mixin} {value : Value} (hmixin : mixin ≠ .none)
    (h : mixin.admits value = true) : value.WellFormed := by
  cases value with
  | member owner name value => cases mixin <;> simp_all [admits]
  | _ => trivial

/-- The value of a well-formed member is well-formed. -/
theorem Value.WellFormed.underlying {v : Value} (h : v.WellFormed) : v.underlying.WellFormed := by
  cases v with
  | member owner name value => exact h.2
  | _ => exact h

/-- A well-formed value that is a truth value is nothing else. -/
theorem Value.WellFormed.eq_bool {v : Value} (h : v.WellFormed) {b : Bool}
    (hplain : v.plain = .bool b) : v = .bool b := by
  cases v with
  | member owner name value =>
    rw [plain] at hplain
    split at hplain
    · cases hplain
    · rename_i hmixin
      rw [hplain, WellFormed] at h
      cases howner : owner.mixin <;> simp_all [Mixin.admits]
  | _ => exact hplain

/-! ## Conversions -/

namespace Conversion

variable {args : List Value} {v value : Value}

theorem exists_int_of_integer (h : integer args = .ok value) : ∃ n, value = .int n := by
  unfold integer at h
  split at h
  · exact ⟨0, (Except.ok.inj h).symm⟩
  · obtain ⟨n, -, rfl⟩ := Outcome.map_eq_ok_iff.mp h
    exact ⟨n, rfl⟩
  · obtain ⟨n, -, rfl⟩ := Outcome.map_eq_ok_iff.mp h
    exact ⟨n, rfl⟩
  · cases h

theorem exists_float_of_real (h : real args = .ok value) : ∃ x, value = .float x := by
  unfold real at h
  split at h
  · exact ⟨_, (Except.ok.inj h).symm⟩
  · obtain ⟨x, -, rfl⟩ := Outcome.map_eq_ok_iff.mp h
    exact ⟨x, rfl⟩
  · cases h

theorem exists_complex_of_complexSum {w : Value} (h : complexSum v w = .ok value) :
    ∃ x y, value = .complex x y := by
  unfold complexSum at h
  split at h
  · cases h
  split at h
  · cases h
  split at h
  · cases h
  · cases h
  · obtain ⟨first, -, h⟩ := Outcome.bind_eq_ok_iff.mp h
    obtain ⟨second, -, h⟩ := Outcome.bind_eq_ok_iff.mp h
    exact ⟨_, _, (Except.ok.inj h).symm⟩

theorem exists_complex_of_complex (h : complex args = .ok value) : ∃ x y, value = .complex x y := by
  unfold complex at h
  split at h
  · exact ⟨_, _, (Except.ok.inj h).symm⟩
  · split at h
    · split at h
      · exact ⟨_, _, (Except.ok.inj h).symm⟩
      · cases h
    · obtain ⟨parts, -, rfl⟩ := Outcome.map_eq_ok_iff.mp h
      exact ⟨_, _, rfl⟩
    · cases h
  · exact exists_complex_of_complexSum h
  · cases h

theorem exists_str_of_decoded {encoding : Value} {errors : Option Value}
    (h : decoded v encoding errors = .ok value) : ∃ s, value = .str s := by
  obtain ⟨name, -, h⟩ := Outcome.bind_eq_ok_iff.mp h
  split at h
  · obtain ⟨s, -, rfl⟩ := Outcome.map_eq_ok_iff.mp h
    exact ⟨s, rfl⟩
  · cases h
  · cases h

theorem exists_str_of_text (h : text args = .ok value) : ∃ s, value = .str s := by
  unfold text at h
  split at h
  · exact ⟨_, (Except.ok.inj h).symm⟩
  · exact ⟨_, (Except.ok.inj h).symm⟩
  · exact exists_str_of_decoded h
  · exact exists_str_of_decoded h
  · cases h

theorem exists_str_of_strictText (h : strictText args = .ok value) : ∃ s, value = .str s := by
  unfold strictText at h
  split at h
  · cases h
  · exact exists_str_of_text h

theorem exists_bytes_of_bytesOf (h : bytesOf v = .ok value) : ∃ s, value = .bytes s := by
  unfold bytesOf at h
  split at h
  · split at h
    · cases h
    split at h
    · cases h
    split at h
    · cases h
    · exact ⟨_, (Except.ok.inj h).symm⟩
  · exact ⟨_, (Except.ok.inj h).symm⟩
  · cases h
  · obtain ⟨cs, -, rfl⟩ := Outcome.map_eq_ok_iff.mp h
    exact ⟨_, rfl⟩
  · obtain ⟨cs, -, rfl⟩ := Outcome.map_eq_ok_iff.mp h
    exact ⟨_, rfl⟩
  · cases h

theorem exists_bytes_of_encoded {encoding : Value} {errors : Option Value}
    (h : encoded v encoding errors = .ok value) : ∃ s, value = .bytes s := by
  obtain ⟨name, -, h⟩ := Outcome.bind_eq_ok_iff.mp h
  split at h
  · obtain ⟨s, -, rfl⟩ := Outcome.map_eq_ok_iff.mp h
    exact ⟨s, rfl⟩
  · cases h

theorem exists_bytes_of_bytes (h : bytes args = .ok value) : ∃ s, value = .bytes s := by
  unfold bytes at h
  split at h
  · exact ⟨_, (Except.ok.inj h).symm⟩
  · exact exists_bytes_of_bytesOf h
  · exact exists_bytes_of_encoded h
  · exact exists_bytes_of_encoded h
  · cases h

theorem exists_list_of_listOf (h : listOf args = .ok value) : ∃ items, value = .list items := by
  unfold listOf at h
  dsimp only at h
  split at h
  · exact ⟨_, (Except.ok.inj h).symm⟩
  · cases h

/-- What a member is declared with is converted to the kind that its enumeration derives from. -/
theorem admits_ofDeclared {isStrict : Bool} {mixin : Mixin}
    (h : ofDeclared isStrict v mixin = .ok value) : mixin.admits value = true := by
  cases mixin with
  | none => rfl
  | integer =>
    obtain ⟨n, rfl⟩ := exists_int_of_integer h
    rfl
  | real =>
    obtain ⟨x, rfl⟩ := exists_float_of_real h
    rfl
  | complex =>
    obtain ⟨x, y, rfl⟩ := exists_complex_of_complex h
    rfl
  | text =>
    obtain ⟨s, rfl⟩ : ∃ s, value = .str s := by
      rw [ofDeclared] at h
      split at h
      · exact exists_str_of_strictText h
      · exact exists_str_of_text h
    rfl
  | bytes =>
    obtain ⟨s, rfl⟩ := exists_bytes_of_bytes h
    rfl
  | tuple =>
    cases h
    rfl
  | list =>
    obtain ⟨items, rfl⟩ := exists_list_of_listOf h
    rfl

/-- The value of a member is well-formed if it is declared with such a value. -/
theorem wellFormed_ofDeclared {isStrict : Bool} {mixin : Mixin} (hv : v.WellFormed)
    (h : ofDeclared isStrict v mixin = .ok value) : value.WellFormed := by
  by_cases hmixin : mixin = .none
  · subst hmixin
    cases h
    exact hv
  · exact Mixin.wellFormed_of_admits hmixin (admits_ofDeclared h)

end Conversion

/-! ## Bodies -/

/-- Whatever the body of an enumeration binds is well-formed. -/
def Declaration.HasWellFormedBody (d : Declaration) : Prop :=
  ∀ statement ∈ d.body, ∀ value ∈ statement.binding.2, value.WellFormed

namespace Roster

/-- Every member is declared with a well-formed value. -/
def WellFormed (roster : Roster) : Prop :=
  ∀ member ∈ roster.members, member.value.WellFormed

variable {roster next : Roster} {name : String} {value : Option Value}

theorem members_of_withSetting (h : roster.withSetting name value = .ok next) :
    next.members = roster.members := by
  unfold withSetting at h
  split at h
  · cases h
  split at h
  · cases h
    rfl
  · obtain ⟨names, -, h⟩ := Outcome.bind_eq_ok_iff.mp h
    split at h
    · cases h
    · cases h
      rfl
  · cases h
    rfl

theorem WellFormed.of_members_eq (h : roster.WellFormed) (hmembers : next.members = roster.members) :
    next.WellFormed := by
  unfold WellFormed
  rw [hmembers]
  exact h

/-- A name in the body adds at most a well-formed member. -/
theorem WellFormed.withName (hroster : roster.WellFormed) {d : Declaration} {place : Nat}
    (hvalue : ∀ v ∈ value, v.WellFormed) (h : roster.withName d place name value = .ok next) :
    next.WellFormed := by
  unfold Roster.withName at h
  split at h
  · cases h
    exact hroster
  split at h
  · exact hroster.of_members_eq (members_of_withSetting h)
  split at h
  · exact hroster.of_members_eq (members_of_withSetting h)
  split at h
  · cases h
    exact hroster
  split at h
  · cases h
  split at h
  · cases h
    exact hroster
  split at h
  · cases h
    exact hroster
  split at h
  · cases h
  · cases h
    intro member hmember
    rcases List.mem_append.mp hmember with hold | hnew
    · exact hroster member hold
    · rw [List.mem_singleton.mp hnew]
      exact hvalue _ rfl

end Roster

namespace Declaration

variable {d : Declaration}

theorem HasWellFormedBody.roster (hd : d.HasWellFormedBody) {roster : Roster}
    (h : d.roster = .ok roster) : roster.WellFormed := by
  obtain ⟨result, hresult, h⟩ := Outcome.bind_eq_ok_iff.mp h
  have hempty : Roster.empty.WellFormed := fun member hmember ↦ absurd hmember List.not_mem_nil
  have hwell : result.WellFormed := by
    refine Outcome.foldlM_induction (fun entry hentry current next hcurrent hnext ↦ ?_) hempty hresult
    have hstatement : entry.1 ∈ d.body := List.fst_mem_of_mem_zipIdx hentry
    exact Outcome.foldlM_induction
      (fun name _ current next hcurrent hnext ↦ hcurrent.withName (hd entry.1 hstatement) hnext)
      hcurrent hnext
  split at h
  · cases h
  · cases h
    exact hwell

/-- A member that is made is well-formed, or it stands for an earlier one. -/
theorem wellFormed_withMember {owner : Schematic.Enumeration} {isStrict : Bool}
    {members next : List Enumerator} {declared : Enumerator}
    (hmembers : ∀ member ∈ members, member.value.WellFormed) (hdeclared : declared.value.WellFormed)
    (h : withMember owner isStrict members declared = .ok next) :
    ∀ member ∈ next, member.value.WellFormed := by
  obtain ⟨value, hvalue, h⟩ := Outcome.bind_eq_ok_iff.mp h
  cases h
  intro member hmember
  rcases List.mem_append.mp hmember with hold | hnew
  · exact hmembers member hold
  rw [List.mem_singleton.mp hnew]
  cases hknown : members.find? _ with
  | none => exact ⟨Conversion.admits_ofDeclared hvalue, Conversion.wellFormed_ofDeclared hdeclared hvalue⟩
  | some known => exact hmembers known (List.mem_of_find?_eq_some hknown)

/-- What the members of an enumeration stand for is well-formed if what its body binds is. -/
theorem HasWellFormedBody.enumerators (hd : d.HasWellFormedBody) {owner : Schematic.Enumeration}
    {isStrict : Bool} {enumerators : Dict Value} (h : d.enumerators owner isStrict = .ok enumerators) :
    ∀ entry ∈ enumerators, entry.2.WellFormed := by
  obtain ⟨roster, hroster, h⟩ := Outcome.bind_eq_ok_iff.mp h
  obtain ⟨members, hmembers, h⟩ := Outcome.bind_eq_ok_iff.mp h
  obtain ⟨-, -, h⟩ := Outcome.bind_eq_ok_iff.mp h
  have hwell : ∀ member ∈ members, member.value.WellFormed :=
    Outcome.foldlM_induction
      (fun declared hdeclared current next hcurrent hnext ↦
        wellFormed_withMember hcurrent (hd.roster hroster declared hdeclared) hnext)
      (fun member hmember ↦ absurd hmember List.not_mem_nil) hmembers
  cases h
  intro entry hentry
  obtain ⟨member, hmember, rfl⟩ := List.mem_map.mp hentry
  exact hwell member hmember

end Declaration

/-! ## Modules -/

namespace Module

variable [Environment]

/-- A module that is built by declarations whose bodies bind well-formed values. -/
structure WellBuilt (m : Module) : Prop where
  built : m.Built
  bodies : ∀ c ∈ m.classes, c.declaration.HasWellFormedBody

namespace WellBuilt

variable {m n : Module}

theorem empty : Module.empty.WellBuilt :=
  ⟨.empty, fun _ hc ↦ absurd hc List.not_mem_nil⟩

/-- A declaration whose body binds well-formed values keeps a module well-built. -/
theorem declare {qualname : String} {d : Declaration} {t : Annotation} (hm : m.WellBuilt)
    (hbases : ∀ base ∈ d.bases, m.Holds base) (hd : d.HasWellFormedBody)
    (hdeclare : m.declare qualname d = .ok (n, t)) : n.WellBuilt := by
  refine ⟨hm.built.declare hbases hdeclare, fun c hc ↦ ?_⟩
  obtain ⟨added, hclasses, hadded⟩ := declared_of_declare hdeclare
  rw [hclasses] at hc
  rcases List.mem_append.mp hc with hold | hnew
  · exact hm.bodies c hold
  · rw [List.mem_singleton.mp hnew, hadded.declaration]
    exact hd

theorem declaring (hm : m.WellBuilt) {qualname : String} {d : Declaration}
    (hbases : ∀ base ∈ d.bases, m.Holds base) (hd : d.HasWellFormedBody) :
    (m.declaring qualname d).WellBuilt := by
  unfold Module.declaring
  split
  · rename_i hdeclare
    exact hm.declare hbases hd hdeclare
  · exact hm

theorem wellFormed_enumerators (hm : m.WellBuilt) (ref : ClassRef) : ∀ entry ∈ m.enumerators ref, entry.2.WellFormed := by
  unfold Module.enumerators
  cases hclass : m.class? ref with
  | none => exact fun entry hentry ↦ absurd hentry List.not_mem_nil
  | some c =>
    obtain ⟨number, qualname, family, rfl, hnumber⟩ := exists_number_of_class? hclass
    obtain ⟨earlier, qualname, d, -, -, -, -, hc⟩ := hm.built.exists_declared hnumber
    have hbody : (earlier.completed d).HasWellFormedBody :=
      hc.declaration ▸ hm.bodies c (List.mem_of_getElem? hnumber)
    have henumerators := hc.enumerators
    unfold enumeratorsFor at henumerators
    split at henumerators
    · exact hbody.enumerators henumerators
    · rw [Option.map_some, Option.getD_some, ← Except.ok.inj henumerators]
      exact fun entry hentry ↦ absurd hentry List.not_mem_nil

/-- The members that an enumeration of a built module lists are well-formed. -/
theorem wellFormed_listedMembers (hm : m.WellBuilt) {ref : ClassRef} {v : Value}
    (h : v ∈ m.listedMembers ref) : v.WellFormed := by
  obtain ⟨entry, hentry, rfl⟩ := List.mem_map.mp (List.mem_filter.mp h).1
  exact hm.wellFormed_enumerators ref entry (List.mem_filter.mp hentry).1

end WellBuilt

end Module

end Schematic
