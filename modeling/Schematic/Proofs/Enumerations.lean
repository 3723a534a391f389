import Schematic.Proofs.InheritedTexts
import Schematic.Proofs.Literals
import Schematic.Reference.Environment

/-!
# Enumerations

An enumeration is compiled to the values that its members stand for, in the order of their definition:
to its texts and numbers if it has any, and to all of its values if they are truth values. There is no
schema for any other enumeration. Whatever its docstring says, the values are kept: the tags of a
docstring have names, and a pass over an enumeration converts no integer, which is all that can fail.
-/

namespace Schematic

namespace Docstring

/-- No tag of a docstring is without a name. -/
theorem name_ne_empty_of_ofLines {name : String} {lines : List (List Char)} {tag : Tag}
    (h : tag ∈ (ofLines name lines).tags) : tag.name ≠ "" := by
  have htags : (ofLines name lines).tags =
      (sections lines).2.map fun entry ↦ ⟨String.ofList entry.1, fragments entry.2⟩ := rfl
  rw [htags] at h
  generalize hread : (sections lines).2 = entries at h
  obtain ⟨entry, hentry, rfl⟩ := List.mem_map.mp h
  have hname : IsTagName entry.1 := isTagName_of_sections lines entry (hread ▸ hentry)
  intro hempty
  rw [String.ofList_eq_empty_iff.mp hempty] at hname
  cases hname

/-- The tags of a docstring have names. -/
theorem tagTextsOf_parseOption (docstring : Option String) (name : String) :
    ∃ tags, Symbol.tagTextsOf (parseOption docstring name) = .ok tags := by
  refine Symbol.tagTextsOf_eq_ok fun symbol hsymbol tag htag ↦ ?_
  obtain ⟨text, -, hsymbol⟩ := Option.bind_eq_some_iff.mp hsymbol
  unfold parse at hsymbol
  dsimp only at hsymbol
  split at hsymbol
  · cases hsymbol
  · rw [← Option.some.inj hsymbol] at htag
    exact name_ne_empty_of_ofLines htag

end Docstring

/-! ## Lists without repetitions -/

theorem foldl_kept_ne_nil {α : Type} (same : α → α → Bool) {items kept : List α}
    (h : kept ≠ [] ∨ items ≠ []) :
    items.foldl (fun kept item ↦ if kept.any (same item) then kept else kept ++ [item]) kept ≠ [] := by
  induction items generalizing kept with
  | nil => exact h.resolve_right (by simp)
  | cons item items ih =>
    rw [List.foldl_cons]
    refine ih (.inl ?_)
    split
    · rename_i hany
      rintro rfl
      cases hany
    · simp

theorem mem_of_mem_foldl_kept {α : Type} (same : α → α → Bool) {items : List α} {x : α}
    (h : x ∈ items.foldl
      (fun kept item ↦ if kept.any (same item) then kept else kept ++ [item]) []) : x ∈ items := by
  refine List.foldlRecOn items _ (motive := fun kept ↦ x ∈ kept → x ∈ items)
    (fun hnil ↦ absurd hnil List.not_mem_nil) (fun kept hkept item hitem hmem ↦ ?_) h
  split at hmem
  · exact hkept hmem
  · rcases List.mem_append.mp hmem with hold | hnew
    · exact hkept hold
    · exact List.mem_singleton.mp hnew ▸ hitem

namespace Value

theorem mem_of_mem_distinct {values : List Value} {v : Value} (h : v ∈ distinct values) :
    v ∈ values := by
  unfold distinct at h
  dsimp only at h
  split at h
  · exact mem_of_mem_foldl_kept sameLiteral h
  · exact h

/-- Other values than texts, numbers and booleans make no literal. -/
theorem literalType?_eq_none {v : Value} (htext : v.isTextOrNumber = false)
    (hboolean : v.literalType? ≠ some .boolean) : v.literalType? = Option.none := by
  cases htype : v.literalType? with
  | none => rfl
  | some type =>
    cases type with
    | boolean => exact absurd htype hboolean
    | string | number => simp [isTextOrNumber, htype] at htext

theorem isMember_of_isNamed {name : String} {v : Value} (h : v.isNamed name = true) :
    ∃ owner name value, v = .member owner name value := by
  cases v with
  | member owner own value => exact ⟨owner, own, value, rfl⟩
  | _ => cases h

end Value

namespace Module

variable {m : Module} {ref : ClassRef}

section

variable [Environment]

/-! ## Shapes of enumerations -/

/-- No enumeration is one of the classes that have flags of their own. -/
theorem classFlags_of_isEnumeration (h : m.isEnumeration ref = true) :
    m.classFlags ref = [.enumLike, .union] := by
  unfold classFlags
  split
  case h_7 => rw [if_pos h]
  all_goals exact absurd (show false = true from h) Bool.false_ne_true

theorem isLiteralOf_listedMember {v : Value} (hv : v ∈ m.listedMembers ref) :
    m.IsLiteralOf (.value v) v := by
  obtain ⟨entry, hentry, rfl⟩ := List.mem_map.mp (List.mem_filter.mp hv).1
  obtain ⟨owner, name, value, hmember⟩ := Value.isMember_of_isNamed (List.mem_filter.mp hentry).2
  rw [hmember]
  exact m.isLiteralOf_member owner name value

/-- As a union, an enumeration has its listed members. -/
theorem forall₂_listedMembers (m : Module) (ref : ClassRef) :
    List.Forall₂ m.IsLiteralOf (m.unionMembers (.cls ref)) (m.listedMembers ref) := by
  have hmembers : m.unionMembers (.cls ref) = (m.listedMembers ref).map .value := rfl
  rw [hmembers, List.forall₂_map_left_iff, List.forall₂_same]
  exact fun _ hv ↦ isLiteralOf_listedMember hv

/-- The texts and numbers of an enumeration decide whether it is one, or else a union of its members. -/
theorem classify_enumeration (href : m.isEnumeration ref = true) :
    m.model.enumValues (.cls ref) =
        .ok (((m.listedMembers ref).filter Value.isTextOrNumber).map Value.toJson) ∧
      m.model.classify (.cls ref) =
        .ok (if (m.listedMembers ref).filter Value.isTextOrNumber = [] then .union else .enum) := by
  have hflags : m.model.flags (.cls ref) = .ok [.enumLike, .union] :=
    congrArg Except.ok (classFlags_of_isEnumeration href)
  have htexts : m.model.textAndNumberValues (m.model.unionMembers (.cls ref)) =
      .ok (((m.listedMembers ref).filter Value.isTextOrNumber).map Value.toJson) :=
    textAndNumberValues_of_literals (m.forall₂_listedMembers ref)
  refine ⟨(TypeModel.enumValues_of_union hflags rfl).trans htexts, ?_⟩
  rw [TypeModel.classify_of_enumLike hflags rfl rfl rfl htexts]
  simp only [List.map_eq_nil_iff]

/-- Without texts and numbers, an enumeration is treated as a union. -/
theorem classify_of_noTexts (href : m.isEnumeration ref = true)
    (hother : ∀ v ∈ m.listedMembers ref, v.isTextOrNumber = false) :
    m.model.classify (.cls ref) = .ok .union := by
  have hnone : (m.listedMembers ref).filter Value.isTextOrNumber = [] :=
    List.filter_eq_nil_iff.mpr fun v hv ↦ Bool.not_eq_true _ ▸ hother v hv
  rw [(classify_enumeration href).2, if_pos hnone]

/-- The documentation of an annotation can be read. -/
theorem exists_tagTexts (m : Module) (t : Annotation) :
    ∃ tags, Symbol.tagTextsOf (m.model.symbol t) = .ok tags := by
  change ∃ tags, Symbol.tagTextsOf (m.symbol? t) = .ok tags
  unfold symbol? classSymbol?
  split
  · rename_i symbol hsymbol
    split at hsymbol
    · split at hsymbol
      · rw [← hsymbol]
        exact Docstring.tagTextsOf_parseOption _ _
      · cases hsymbol
    · cases hsymbol
  · exact Docstring.tagTextsOf_parseOption _ _

/-! ## Compilations of enumerations -/

/-- A type has a schema with the given values. -/
def CompilesValues (m : Module) (t : Annotation) (values : List Json) : Prop :=
  ∃ node, (m.model.compile t).outcome = .ok node ∧ Dict.get? "enum" node = some (.arr values)

structure CompilesEnumeration (m : Module) (ref : ClassRef) : Prop where
  texts (htexts : ∃ v ∈ m.listedMembers ref, v.isTextOrNumber = true) :
    m.CompilesValues (.cls ref) (((m.listedMembers ref).filter Value.isTextOrNumber).map Value.toJson)
  booleans (hne : m.listedMembers ref ≠ [])
      (hbooleans : ∀ v ∈ m.listedMembers ref, v.literalType? = some .boolean) :
    m.CompilesValues (.cls ref) ((m.listedMembers ref).map Value.toJson)
  other (hother : ∀ v ∈ m.listedMembers ref, v.isTextOrNumber = false)
      (hmixed : m.listedMembers ref = [] ∨ ∃ v ∈ m.listedMembers ref, v.literalType? ≠ some .boolean) :
    (m.model.compile (.cls ref)).outcome =
      .error (.ofError (.unsupportedType .complexUnion (m.model.render (.cls ref))))

/-- With a text or a number, its texts and numbers are the values, and the others are dropped. -/
theorem compile_textMembers (href : m.isEnumeration ref = true)
    (htexts : ∃ v ∈ m.listedMembers ref, v.isTextOrNumber = true) :
    m.CompilesValues (.cls ref)
      (((m.listedMembers ref).filter Value.isTextOrNumber).map Value.toJson) := by
  obtain ⟨v, hv, htext⟩ := htexts
  obtain ⟨tags, htags⟩ := m.exists_tagTexts (.cls ref)
  obtain ⟨hvalues, hcategory⟩ := classify_enumeration href
  have hne : (m.listedMembers ref).filter Value.isTextOrNumber ≠ [] :=
    List.ne_nil_of_mem (List.mem_filter.mpr ⟨hv, htext⟩)
  rw [if_neg hne] at hcategory
  unfold CompilesValues
  rw [TypeModel.compile_enum (m.depth_ne_zero _) htags hcategory hvalues]
  exact Constraint.exists_applied_enum _ tags _

theorem compile_booleanMembers (href : m.isEnumeration ref = true)
    (hwell : ∀ v ∈ m.listedMembers ref, v.WellFormed) (hne : m.listedMembers ref ≠ [])
    (hbooleans : ∀ v ∈ m.listedMembers ref, v.literalType? = some .boolean) :
    m.CompilesValues (.cls ref) ((m.listedMembers ref).map Value.toJson) := by
  obtain ⟨tags, htags⟩ := m.exists_tagTexts (.cls ref)
  have htypes : ∀ v ∈ m.listedMembers ref, v.literalType? ≠ none := fun v hv ↦ by simp [hbooleans v hv]
  have hother : ∀ v ∈ m.listedMembers ref, v.isTextOrNumber = false :=
    fun v hv ↦ by simp [Value.isTextOrNumber, hbooleans v hv]
  unfold CompilesValues
  rw [TypeModel.compile_union (m.depth_ne_zero _) htags (classify_of_noTexts href hother)
    (literalValues_of_literals (m.forall₂_listedMembers ref) hwell htypes)
    (List.map_eq_nil_iff.not.mpr hne)]
  exact Constraint.exists_applied_enum _ tags _

/-- Members without a literal among them, or none at all, leave an enumeration without values. -/
theorem exists_literalValues_of_mixed
    (hother : ∀ v ∈ m.listedMembers ref, v.isTextOrNumber = false)
    (hmixed : m.listedMembers ref = [] ∨ ∃ v ∈ m.listedMembers ref, v.literalType? ≠ some .boolean) :
    ∃ values, m.model.literalValues (m.unionMembers (.cls ref)) = .ok values ∧ values.getD [] = [] := by
  have hmembers : m.unionMembers (.cls ref) = (m.listedMembers ref).map .value := rfl
  rw [hmembers]
  rcases hmixed with hnil | ⟨v, hv, hboolean⟩
  · rw [hnil]
    exact ⟨some [], rfl, rfl⟩
  · have hnone : v.literalType? = none := Value.literalType?_eq_none (hother v hv) hboolean
    refine ⟨none, literalValues_eq_none (fun t ht ↦ ?_) ⟨.value v, List.mem_map_of_mem hv, v.flags,
      (isLiteralOf_listedMember hv).flags, Value.isLiteral_of_literalType?_none hnone⟩, rfl⟩
    obtain ⟨other, hmem, rfl⟩ := List.mem_map.mp ht
    exact ⟨other.flags, (isLiteralOf_listedMember hmem).flags⟩

/-- An enumeration is compiled by what its members are, or it fails. -/
theorem compilesEnumeration (href : m.isEnumeration ref = true)
    (hwell : ∀ v ∈ m.listedMembers ref, v.WellFormed) : m.CompilesEnumeration ref where
  texts htexts := compile_textMembers href htexts
  booleans hne hbooleans := compile_booleanMembers href hwell hne hbooleans
  other hother hmixed := by
    obtain ⟨tags, htags⟩ := m.exists_tagTexts (.cls ref)
    obtain ⟨values, hvalues, hempty⟩ := exists_literalValues_of_mixed hother hmixed
    exact TypeModel.compile_complexUnion (m.depth_ne_zero _) htags (classify_of_noTexts href hother)
      hvalues hempty

/-! ## Literals and enumerations -/

/-- Where no value is needed, any answer about it will do. -/
theorem exists_answersLiterals (m : Module) : ∃ value : Annotation → Json,
    m.model.AnswersLiterals fun t ↦ .ok (value t) := by
  refine ⟨fun t ↦ (m.model.literal t).toOption.getD .null, fun t flags hflags htext ↦ ?_⟩
  obtain ⟨value, hvalue⟩ := exists_literal hflags htext
  dsimp only
  rw [hvalue]
  rfl

/-- Every literal is compiled to the values that are kept of it, and every enumeration to the values of
its members; types are compiled as if every question for the value of a literal had an answer. -/
theorem compile_literals (hm : m.WellBuilt) :
    (∀ args : List Value, (∀ v ∈ args, v.WellFormed) →
      m.CompilesLiteral (.literalOf args) (Value.distinct args)) ∧
    (∀ ref, m.isEnumeration ref = true → m.CompilesEnumeration ref) ∧
    ∃ value : Annotation → Json, m.model.AnswersLiterals (fun t ↦ .ok (value t)) ∧
      ∀ t, (m.model.withLiterals fun t ↦ .ok (value t)).compile t = m.model.compile t := by
  refine ⟨fun args hargs ↦ ?_, fun ref href ↦ ?_, ?_⟩
  · exact m.compilesLiteral fun v hv ↦ hargs v (Value.mem_of_mem_distinct hv)
  · exact compilesEnumeration href fun v hv ↦ hm.wellFormed_listedMembers hv
  · obtain ⟨value, hvalue⟩ := m.exists_answersLiterals
    exact ⟨value, hvalue, TypeModel.compile_withLiterals hvalue⟩

end

def enumerationClass (name : String) (bases : List ClassRef) (members : List (String × Value)) :
    Declaration where
  name := name
  flavour := .enumeration
  bases := bases
  doc := none
  body := members.map fun member ↦ .assigned [member.1] member.2
  source := .faithful

theorem hasWellFormedBody_enumerationClass {name : String} {bases : List ClassRef}
    {members : List (String × Value)} (h : ∀ member ∈ members, member.2.WellFormed) :
    (enumerationClass name bases members).HasWellFormedBody := by
  intro statement hstatement value hvalue
  obtain ⟨member, hmember, rfl⟩ := List.mem_map.mp hstatement
  cases hvalue
  exact h member hmember

attribute [local instance] Environment.plain

/-- An enumeration of a text, an absent value and a number. -/
def mixedMembers : Module :=
  Module.empty.declaring "E" (enumerationClass "E" [.enumeration]
    [("A", .str "a"), ("B", .none), ("C", .int 1)])

theorem compile_literals_mixed :
    mixedMembers.CompilesValues (.cls (.declared 0 "E" .enumeration)) [.str "a", .int 1] ∧
    (mixedMembers.model.compile (.literalOf [.int 1, .bool true, .int 1])).outcome =
      .ok [("enum", .arr [.int 1, .bool true])] := by
  have hbuilt : mixedMembers.WellBuilt := by
    refine .declaring .empty (fun base hbase ↦ ?_)
      (hasWellFormedBody_enumerationClass (by simp [Value.WellFormed]))
    rw [List.mem_singleton.mp hbase]
    exact holds_undeclared _ rfl
  obtain ⟨hliterals, henumerations, -⟩ := compile_literals hbuilt
  have henumeration : mixedMembers.CompilesEnumeration (.declared 0 "E" .enumeration) :=
    henumerations _ (by decide +kernel)
  constructor
  · have hjson : ((mixedMembers.listedMembers (.declared 0 "E" .enumeration)).filter
        Value.isTextOrNumber).map Value.toJson = [.str "a", .int 1] := by
      rfl
    exact hjson ▸ henumeration.texts (by decide +kernel)
  · exact (hliterals [.int 1, .bool true, .int 1] (by simp [Value.WellFormed])).several
      (by decide +kernel) (by decide +kernel)

def tupleMembers : Module :=
  Module.empty.declaring "E" (enumerationClass "E" [.tuple, .enumeration] [("A", .tuple [.str "a"])])

/-- A tuple is neither a text nor a number nor a truth value, but among several values it is taken for its
one item, even where it is a member of an enumeration. -/
theorem compile_tupleMember : ∃ member,
    tupleMembers.listedMembers (.declared 0 "E" .enumeration) = [member] ∧ member.literalType? = none ∧
      (tupleMembers.model.compile (.literalOf [member, .str "b"])).outcome =
        .ok [("enum", .arr [.str "a", .str "b"])] ∧
      (tupleMembers.model.compile (.literalOf [.tuple [.str "a"], .str "b"])).outcome =
        .ok [("enum", .arr [.str "a", .str "b"])] := by
  exact ⟨_, rfl, rfl, rfl, rfl⟩

end Module

end Schematic
