import Schematic.Proofs.Answers
import Schematic.Proofs.EnumerationFlag
import Schematic.Proofs.Literals

/-!
# Unions of literals

A union of literals is compiled to the constants that its members are compiled to alone, in their
order. If it is like an enumeration, the truth values are left out as long as there is a text or a
number. The constants are read in three places, by the builders of the literals, by the one of the
unions and by the collector of an enumeration, and are the same in all of them. The documentation of
a union can keep it from being compiled, and so can that of a member keep the member.
-/

namespace Schematic

namespace Scripted

open TypeModel

/-! ## Literals -/

/-- A type with one flag, that of a literal. -/
def IsLiteral (table : Table) (type : Nat) (kind : LiteralType) : Prop :=
  ∀ flag, flag ∈ (record table type).flags ↔ flag = kind.flag

/-- What a literal stands for: a truth value is told by the rendering. -/
def literalConst (table : Table) (type : Nat) : Json :=
  if (record table type).flags.contains .booleanLiteral then .bool ((model table).isTrueLiteral type)
  else (record table type).value

section

variable {table : Table} {type : Nat} {kind : LiteralType}

theorem IsLiteral.same (h : IsLiteral table type kind) :
    Flags.SameButEnumLike [kind.flag] (record table type).flags :=
  fun flag _ ↦ (h flag).trans List.mem_singleton.symm

/-- A literal has the category of its kind. -/
theorem IsLiteral.classify (h : IsLiteral table type kind) :
    (model table).classify type = .ok kind.category :=
  classify_of_category rfl (h.same.categoryOfFlags?.trans kind.categoryOfFlags?_flag)

theorem IsLiteral.isLiteral (h : IsLiteral table type kind) :
    (record table type).flags.isLiteral = true := by
  rw [h.same.isLiteral]
  cases kind <;> rfl

theorem IsLiteral.build (h : IsLiteral table type kind) (compileType : Open Nat → Nat → Logged Node) :
    ((model table).build compileType [] type kind.category).outcome =
      .ok [("type", .str kind.name), ("const", literalConst table type)] := by
  unfold literalConst
  rw [h.same.contains .booleanLiteral (by decide)]
  cases kind <;> rfl

/-- A literal is compiled to its constant, with the documentation laid over it. -/
theorem IsLiteral.compile {tags : Dict String} (h : IsLiteral table type kind)
    (htags : Symbol.tagTextsOf (record table type).symbol = .ok tags) :
    ((model table).compile type).outcome =
      (Constraint.applied [("type", .str kind.name), ("const", literalConst table type)] tags
        (Symbol.descriptionOf (record table type).symbol)).outcome := by
  have hdepth : (model table).depth type ≠ 0 := Nat.succ_ne_zero _
  rw [outcome_compile_of_build hdepth htags h.classify h.build, Outcome.ok_bind]
  rfl

theorem exists_gate_literal (kind : LiteralType) (value : Json) : ∃ gate,
    Constraint.gate (Dict.get? "type" [("type", .str kind.name), ("const", value)]) = .ok gate := by
  cases kind with
  | string => exact ⟨.string, rfl⟩
  | number => exact ⟨.numeric, rfl⟩
  | boolean => exact ⟨.other, rfl⟩

/-- What compiles has tags that can be read. -/
theorem exists_tagTexts_of_compile {node : Node}
    (h : ((model table).compile type).outcome = .ok node) :
    ∃ tags, Symbol.tagTextsOf (record table type).symbol = .ok tags := by
  rw [outcome_compile] at h
  obtain ⟨tags, -, -, htags, -⟩ := compileUnder_succ_eq_ok_iff.mp h
  exact ⟨tags, htags⟩

/-- The value stands in the compiled node whatever the tags are. -/
theorem IsLiteral.const {node : Node} (h : IsLiteral table type kind)
    (hnode : ((model table).compile type).outcome = .ok node) :
    Dict.get? "const" node = some (literalConst table type) := by
  obtain ⟨tags, htags⟩ := exists_tagTexts_of_compile hnode
  obtain ⟨gate, hgate⟩ := exists_gate_literal kind (literalConst table type)
  rw [h.compile htags] at hnode
  exact Constraint.get?_applied_builtKey (by decide) hgate hnode

/-- A literal with tags that can be read compiles. -/
theorem IsLiteral.exists_compile (h : IsLiteral table type kind)
    (hreadable : Symbol.Readable (record table type).symbol) :
    ∃ node, ((model table).compile type).outcome = .ok node := by
  obtain ⟨tags, htags⟩ := Symbol.tagTextsOf_eq_ok hreadable.named
  obtain ⟨gate, hgate⟩ := exists_gate_literal kind (literalConst table type)
  rw [h.compile htags]
  exact Constraint.applied_eq_ok_of_readable hreadable htags hgate _

end

/-! ## Values of unions -/

theorem literalValues_eq {table : Table} {types : List Nat}
    (h : ∀ type ∈ types, (record table type).flags.isLiteral = true) :
    (model table).literalValues types = .ok (some (types.map (literalConst table))) := by
  induction types with
  | nil => rfl
  | cons type rest ih =>
    obtain ⟨hliteral, hrest⟩ := List.forall_mem_cons.mp h
    have hflags : (model table).flags type = .ok (record table type).flags := rfl
    rw [literalValues, hflags, Outcome.ok_bind, hliteral, ih hrest, List.map_cons]
    unfold literalConst
    cases (record table type).flags.contains .booleanLiteral <;> rfl

/-- The members of a union that are string or number literals. -/
def textMembers (table : Table) (type : Nat) : List Nat :=
  (record table type).union.filter fun member ↦ (record table member).flags.isTextOrNumber

/-- An enumeration has the values of its string and number literals. -/
theorem textAndNumberValues_union (table : Table) (type : Nat) :
    (model table).textAndNumberValues ((model table).unionMembers type) =
      .ok ((textMembers table type).map fun member ↦ (record table member).value) :=
  textAndNumberValues_eq table (record table type).union

/-- Without truth values, a literal stands for the value of its entry. -/
theorem literalConst_of_noBoolean {table : Table} {type : Nat}
    (h : (record table type).flags.contains .booleanLiteral = false) :
    literalConst table type = (record table type).value := by
  rw [literalConst, h]
  rfl

/-- A union without texts and numbers, or of nothing else, has one kind of members. -/
theorem unmixed_of_noTexts {table : Table} {type : Nat} (h : textMembers table type = []) :
    (model table).Unmixed type := by
  left
  rw [textAndNumberValues_union, h]
  rfl

theorem unmixed_of_texts {table : Table} {type : Nat}
    (h : ∀ member ∈ (record table type).union,
      (record table member).flags.contains .booleanLiteral = false ∧
        (record table member).flags.isLiteral = true) : (model table).Unmixed type := by
  right
  have htexts : textMembers table type = (record table type).union := by
    refine List.filter_eq_self.mpr fun member hmember ↦ ?_
    obtain ⟨hboolean, hliteral⟩ := h member hmember
    rwa [Flags.isLiteral, hboolean, Bool.or_false] at hliteral
  have hvalues : (record table type).union.map (literalConst table) =
      (record table type).union.map fun member ↦ (record table member).value :=
    List.map_congr_left fun member hmember ↦ literalConst_of_noBoolean (h member hmember).1
  rw [textAndNumberValues_union, htexts, ← hvalues]
  exact literalValues_eq fun member hmember ↦ (h member hmember).2

/-! ## Tables with other flags -/

def withFlags (table : Table) (type : Nat) (flags : Flags) : Table :=
  table.modify type fun entry ↦ { entry with flags }

/-- The entries of other types keep their flags. -/
theorem record_withFlags {table : Table} {type : Nat} (h : type < table.length) (flags : Flags)
    (other : Nat) : record (withFlags table type flags) other =
      { record table other with
        flags := if other = type then flags else (record table other).flags } := by
  unfold record withFlags
  rw [List.getElem?_modify]
  by_cases hother : type = other
  · subst hother
    simp [List.getElem?_eq_getElem h]
  · simp [hother, Ne.symm hother]

theorem model_withFlags {table : Table} {type : Nat} (h : type < table.length) (flags : Flags) :
    model (withFlags table type flags) = (model table).withFlags fun other ↦
      .ok (if other = type then flags else (record table other).flags) := by
  have hlength : (withFlags table type flags).length = table.length := List.length_modify _ _ _
  simp only [model, TypeModel.withFlags, record_withFlags h, nesting, hlength]

/-- The flag of enumerations does not count in a union with one kind of members. -/
theorem compile_withFlags_of_unmixed {table : Table} {type : Nat} {flags : Flags}
    (hflags : (record table type).flags.SameButEnumLike flags) (h : (model table).Unmixed type) :
    (model (withFlags table type flags)).compile type = (model table).compile type := by
  by_cases hlength : type < table.length
  · rw [model_withFlags hlength]
    refine compile_withFlags (fun other ↦ ?_) (fun other hother ↦ ?_) type
    · by_cases hsame : other = type
      · subst hsame
        rw [if_pos rfl]
        exact .ok hflags
      · rw [if_neg hsame]
        exact .ok fun _ _ ↦ Iff.rfl
    · have hsame : other = type := by
        by_contra hne
        rw [if_neg hne] at hother
        exact hother rfl
      exact hsame ▸ h
  · have htable : withFlags table type flags = table :=
      List.modify_eq_self (Nat.not_lt.mp hlength)
    rw [htable]

/-! ## Compilations -/

/-- A union, told apart by no other flag, of types with one flag each, that of a literal. -/
structure IsLiteralUnion (table : Table) (type : Nat) : Prop where
  union : .union ∈ (record table type).flags
  plain : ∀ entry ∈ flagCategories, entry.1 ∉ (record table type).flags
  members : ∀ member ∈ (record table type).union, ∃ kind, IsLiteral table member kind

/-- A type is compiled to an enumeration of some values. -/
def CompilesValues (table : Table) (type : Nat) (values : List Json) : Prop :=
  ∃ node, ((model table).compile type).outcome = .ok node ∧
    Dict.get? "enum" node = some (.arr values)

/-- What a union of literals is compiled to, with and without the flag of enumerations. -/
structure CompilesLiteralUnion (table : Table) (type : Nat) : Prop where
  consts : ∀ member ∈ (record table type).union,
    (∀ node, ((model table).compile member).outcome = .ok node →
      Dict.get? "const" node = some (literalConst table member)) ∧
    (Symbol.Readable (record table member).symbol →
      ∃ node, ((model table).compile member).outcome = .ok node)
  plain : .enumLike ∉ (record table type).flags → (record table type).union ≠ [] →
    CompilesValues table type ((record table type).union.map (literalConst table))
  empty : .enumLike ∉ (record table type).flags → (record table type).union = [] →
    ((model table).compile type).outcome =
      .error (.ofError (.unsupportedType .complexUnion (record table type).name))
  texts : .enumLike ∈ (record table type).flags → textMembers table type ≠ [] →
    CompilesValues table type ((textMembers table type).map (literalConst table))
  others : .enumLike ∈ (record table type).flags → textMembers table type = [] →
    ((model table).compile type).outcome =
      ((model (withFlags table type ((record table type).flags.filter (· ≠ .enumLike)))).compile
        type).outcome

section

variable {table : Table} {type : Nat}

theorem IsLiteralUnion.categoryOfFlags? (h : IsLiteralUnion table type) :
    categoryOfFlags? (record table type).flags = none := by
  refine Option.map_eq_none_iff.mpr (List.find?_eq_none.mpr fun entry hentry ↦ ?_)
  simpa using h.plain entry hentry

theorem IsLiteralUnion.literalValues (h : IsLiteralUnion table type) :
    (model table).literalValues ((model table).unionMembers type) =
      .ok (some ((record table type).union.map (literalConst table))) := by
  refine literalValues_eq fun member hmember ↦ ?_
  obtain ⟨kind, hkind⟩ := h.members member hmember
  exact hkind.isLiteral

/-- A string or number literal stands for its value. -/
theorem IsLiteralUnion.literalConst_text (h : IsLiteralUnion table type) {member : Nat}
    (hmember : member ∈ textMembers table type) :
    literalConst table member = (record table member).value := by
  obtain ⟨hunion, htext⟩ := List.mem_filter.mp hmember
  obtain ⟨kind, hkind⟩ := h.members member hunion
  refine literalConst_of_noBoolean ?_
  rw [hkind.same.isTextOrNumber] at htext
  rw [hkind.same.contains .booleanLiteral (by decide)]
  cases kind with
  | boolean => cases htext
  | string | number => rfl

/-- Without the flag of enumerations, the union is one. -/
theorem IsLiteralUnion.classify_plain (h : IsLiteralUnion table type)
    (hplain : .enumLike ∉ (record table type).flags) :
    (model table).classify type = .ok .union :=
  classify_of_plainUnion rfl h.categoryOfFlags? (List.contains_iff_mem.mpr h.union)
    (by simpa using hplain)

/-- With the flag and a string or number literal, it is an enumeration. -/
theorem IsLiteralUnion.classify_texts (h : IsLiteralUnion table type)
    (henum : .enumLike ∈ (record table type).flags) (htexts : textMembers table type ≠ []) :
    (model table).classify type = .ok .enum := by
  rw [classify_of_enumLike rfl h.categoryOfFlags? (List.contains_iff_mem.mpr h.union)
    (List.contains_iff_mem.mpr henum) (textAndNumberValues_union table type)]
  rw [if_neg (List.map_eq_nil_iff.not.mpr htexts)]

/-- A union of literals whose tags have names is compiled to the constants of its members. -/
theorem IsLiteralUnion.compiles (h : IsLiteralUnion table type)
    (hnamed : ∀ symbol ∈ (record table type).symbol, ∀ tag ∈ symbol.tags, tag.name ≠ "") :
    CompilesLiteralUnion table type := by
  have hdepth : (model table).depth type ≠ 0 := Nat.succ_ne_zero _
  obtain ⟨tags, htags⟩ := Symbol.tagTextsOf_eq_ok hnamed
  refine ⟨?_, ?_, ?_, ?_, ?_⟩
  · intro member hmember
    obtain ⟨kind, hkind⟩ := h.members member hmember
    exact ⟨fun node hnode ↦ hkind.const hnode, hkind.exists_compile⟩
  · intro hplain hne
    unfold CompilesValues
    rw [compile_union hdepth htags (h.classify_plain hplain) h.literalValues
      (List.map_eq_nil_iff.not.mpr hne)]
    exact Constraint.exists_applied_enum _ tags _
  · intro hplain hnil
    refine compile_complexUnion hdepth htags (h.classify_plain hplain) h.literalValues ?_
    rw [hnil]
    rfl
  · intro henum htexts
    have hvalues : (model table).enumValues type =
        .ok ((textMembers table type).map (literalConst table)) := by
      rw [enumValues_of_union rfl (List.contains_iff_mem.mpr h.union), textAndNumberValues_union,
        List.map_congr_left fun member hmember ↦ h.literalConst_text hmember]
    unfold CompilesValues
    rw [compile_enum hdepth htags (h.classify_texts henum htexts) hvalues]
    exact Constraint.exists_applied_enum _ tags _
  · intro _ hnone
    have hsame : (record table type).flags.SameButEnumLike
        ((record table type).flags.filter (· ≠ .enumLike)) := by
      intro flag hflag
      simp [List.mem_filter, hflag]
    rw [compile_withFlags_of_unmixed hsame (unmixed_of_noTexts hnone)]

end

/-- A union of literals is compiled to the constants of its members, and the flag of enumerations tells
apart only a type that has both texts or numbers and others in its union. -/
theorem compile_literalUnion (table : Table) (type : Nat) :
    (IsLiteralUnion table type →
      (∀ symbol ∈ (record table type).symbol, ∀ tag ∈ symbol.tags, tag.name ≠ "") →
        CompilesLiteralUnion table type) ∧
    ∀ flags, (record table type).flags.SameButEnumLike flags →
      ((model (withFlags table type flags)).compile type).outcome ≠
        ((model table).compile type).outcome →
      (∃ member ∈ (record table type).union, (record table member).flags.isTextOrNumber = true) ∧
      ∃ member ∈ (record table type).union, .booleanLiteral ∈ (record table member).flags ∨
        (record table member).flags.isLiteral = false := by
  refine ⟨fun h hnamed ↦ h.compiles hnamed, fun flags hflags hdiffers ↦ ?_⟩
  have hmixed : ¬ (model table).Unmixed type := fun hunmixed ↦
    hdiffers (congrArg Logged.outcome (compile_withFlags_of_unmixed hflags hunmixed))
  constructor
  · obtain ⟨member, hmember⟩ := List.exists_mem_of_ne_nil _ (mt unmixed_of_noTexts hmixed)
    exact ⟨member, List.mem_filter.mp hmember⟩
  · by_contra hnone
    push Not at hnone
    refine hmixed (unmixed_of_texts fun member hmember ↦ ?_)
    obtain ⟨hboolean, hliteral⟩ := hnone member hmember
    exact ⟨by simpa using hboolean, by simpa using hliteral⟩

/-- A union of two texts, a truth value and a number, with the flag of enumerations and without. -/
def choiceTable : Table :=
  [{ name := "Choice", flags := [.enumLike, .union], union := [2, 3, 4, 2] },
   { name := "Choice", flags := [.union], union := [2, 3, 4, 2] },
   { name := "'a'", flags := [.stringLiteral], value := .str "a" },
   { name := "True", flags := [.booleanLiteral] },
   { name := "1", flags := [.numberLiteral], value := .int 1 }]

theorem isLiteral_choiceTable : ∀ member ∈ [2, 3, 4, 2], ∃ kind, IsLiteral choiceTable member kind := by
  intro member hmember
  simp only [List.mem_cons, List.not_mem_nil, or_false] at hmember
  rcases hmember with rfl | rfl | rfl | rfl
  · exact ⟨.string, fun _ ↦ List.mem_singleton⟩
  · exact ⟨.boolean, fun _ ↦ List.mem_singleton⟩
  · exact ⟨.number, fun _ ↦ List.mem_singleton⟩
  · exact ⟨.string, fun _ ↦ List.mem_singleton⟩

/-- The flag costs the union of the example its truth value. -/
theorem compile_literalUnion_choice :
    CompilesValues choiceTable 0 [.str "a", .int 1, .str "a"] ∧
      CompilesValues choiceTable 1 [.str "a", .bool true, .int 1, .str "a"] ∧
      (∃ member ∈ [2, 3, 4, 2], (record choiceTable member).flags.isTextOrNumber = true) ∧
      ∃ member ∈ [2, 3, 4, 2], .booleanLiteral ∈ (record choiceTable member).flags ∨
        (record choiceTable member).flags.isLiteral = false := by
  obtain ⟨henum, hmixed⟩ := compile_literalUnion choiceTable 0
  obtain ⟨hunion, -⟩ := compile_literalUnion choiceTable 1
  have htexts : CompilesValues choiceTable 0 [.str "a", .int 1, .str "a"] :=
    (henum ⟨by decide, by decide, isLiteral_choiceTable⟩ nofun).texts (by decide) (by decide)
  have hplain : CompilesValues choiceTable 1 [.str "a", .bool true, .int 1, .str "a"] :=
    (hunion ⟨by decide, by decide, isLiteral_choiceTable⟩ nofun).plain (by decide) (by decide)
  have hcleared : Flags.SameButEnumLike [.enumLike, .union] [.union] := by
    intro flag hflag
    simp [hflag]
  refine ⟨htexts, hplain, hmixed [.union] hcleared ?_⟩
  have hwith : ((model choiceTable).compile 0).outcome =
      .ok [("enum", .arr [.str "a", .int 1, .str "a"])] := rfl
  have hwithout : ((model (withFlags choiceTable 0 [.union])).compile 0).outcome =
      .ok [("enum", .arr [.str "a", .bool true, .int 1, .str "a"])] := rfl
  rw [hwith, hwithout]
  simp

/-- A union that has a tag without a name, and one that has not, of a literal that has. -/
def unnamedTable : Table :=
  [{ name := "Tagged", flags := [.union], union := [2], symbol := some ⟨"Tagged", [], [⟨"", []⟩]⟩ },
   { name := "Plain", flags := [.union], union := [2] },
   { name := "'a'", flags := [.stringLiteral], value := .str "a",
     symbol := some ⟨"'a'", [], [⟨"", []⟩]⟩ }]

/-- A tag without a name keeps a union from being compiled, and a member as well, which leaves a value
of the union without a constant that is compiled alone. -/
theorem compile_literalUnion_unnamed :
    IsLiteralUnion unnamedTable 0 ∧ ¬ CompilesLiteralUnion unnamedTable 0 ∧
      IsLiteralUnion unnamedTable 1 ∧ CompilesValues unnamedTable 1 [.str "a"] ∧
      (∀ values, ¬ CompilesValues unnamedTable 0 values) ∧
      ∀ node, ((model unnamedTable).compile 2).outcome ≠ .ok node := by
  have hmember : ∀ member ∈ [2], ∃ kind, IsLiteral unnamedTable member kind := by
    intro member hmember
    obtain rfl := List.mem_singleton.mp hmember
    exact ⟨.string, fun _ ↦ List.mem_singleton⟩
  have hnamed : ((model unnamedTable).compile 0).outcome =
      .error (.invalid [⟨[.field "name"], .stringTooShort⟩]) := rfl
  have hliteral : ((model unnamedTable).compile 2).outcome =
      .error (.invalid [⟨[.field "name"], .stringTooShort⟩]) := rfl
  have hnone : ∀ values, ¬ CompilesValues unnamedTable 0 values := by
    rintro values ⟨node, hnode, -⟩
    cases hnamed.symm.trans hnode
  refine ⟨⟨by decide, by decide, hmember⟩, ?_, ⟨by decide, by decide, hmember⟩, ⟨_, rfl, rfl⟩, hnone, ?_⟩
  · intro hcompiles
    exact hnone _ (hcompiles.plain (by decide) (by decide))
  · intro node hnode
    cases hliteral.symm.trans hnode

end Scripted

end Schematic
