import Schematic.Proofs.Enumerations
import Schematic.Proofs.TagTexts
import Schematic.Proofs.Wrappers
import Schematic.Reference.Environment

/-!
# Nested literals

Literals of texts, numbers and truth values are put together by unions of either spelling, and aliases
and metadata may stand around any part. What is built in this way is compiled to the values of its
leaves from the left to the right, or to the one value that it is a literal of. A union takes in the
members of a union that it is given as it is. It does not look for a union behind an alias or metadata,
and such a member keeps it from being compiled.

The documentation around a union cannot keep it from being compiled. That around a single text can, by
a length of too many digits.
-/

namespace Schematic

/-! ## Lists without repetitions -/

theorem Value.distinct_ne_nil {values : List Value} (h : values ≠ []) : distinct values ≠ [] := by
  unfold distinct
  dsimp only
  split
  · exact foldl_kept_ne_nil sameLiteral (.inr h)
  · exact h

namespace Annotation

theorem distinct_ne_nil {types : List Annotation} (h : types ≠ []) : distinct types ≠ [] :=
  foldl_kept_ne_nil same (.inr h)

theorem mem_of_mem_distinct {types : List Annotation} {t : Annotation} (h : t ∈ distinct types) :
    t ∈ types :=
  mem_of_mem_foldl_kept same h

/-! ## Trees of literals -/

/-- A value that has a schema as a literal. -/
def IsLeaf (v : Value) : Prop :=
  v.WellFormed ∧ v.literalType? ≠ none

@[simp]
theorem isLeaf_str (text : String) : IsLeaf (.str text) :=
  ⟨trivial, nofun⟩

@[simp]
theorem isLeaf_int (n : Int) : IsLeaf (.int n) :=
  ⟨trivial, nofun⟩

@[simp]
theorem isLeaf_bool (b : Bool) : IsLeaf (.bool b) :=
  ⟨trivial, nofun⟩

/-- What is written with literals, unions, aliases and metadata. -/
inductive WrittenFromLiterals : Annotation → Prop where
  | literal {args : List Value} (hne : args ≠ []) (hargs : ∀ v ∈ args, IsLeaf v) :
      WrittenFromLiterals (literalOf args)
  | union {types : List Annotation} (hne : types ≠ [])
      (htypes : ∀ t ∈ types, WrittenFromLiterals t) : WrittenFromLiterals (unionOf types)
  | bar {a b : Annotation} (ha : WrittenFromLiterals a) (hb : WrittenFromLiterals b) :
      WrittenFromLiterals (a.or b)
  | synonym (number : Nat) (name : String) {t : Annotation} (h : WrittenFromLiterals t) :
      WrittenFromLiterals (.synonym number name t)
  | annotated (metadata : List Metadata) {t : Annotation} (h : WrittenFromLiterals t) :
      WrittenFromLiterals (t.annotatedWith metadata)

/-- A tree of unions with literals at its leaves, and aliases and metadata anywhere. -/
inductive LiteralTree : Annotation → Prop where
  | literal {values : List Value} (hne : values ≠ []) (hvalues : ∀ v ∈ values, IsLeaf v) :
      LiteralTree (.literal values)
  | union {members : List Annotation} (style : UnionStyle) (hne : members ≠ [])
      (hmembers : ∀ t ∈ members, LiteralTree t) : LiteralTree (.union style members)
  | synonym (number : Nat) (name : String) {t : Annotation} (h : LiteralTree t) :
      LiteralTree (.synonym number name t)
  | annotated (metadata : List Metadata) {t : Annotation} (h : LiteralTree t) :
      LiteralTree (.annotated t metadata)

mutual

/-- The values of all literals in an annotation, from the left to the right. -/
def leaves : Annotation → List Value
  | literal values => values
  | union _ members => leavesOfAll members
  | synonym _ _ inner | newType _ _ inner | annotated inner _ | qualified _ inner => leaves inner
  | _ => []

def leavesOfAll : List Annotation → List Value
  | [] => []
  | first :: rest => leaves first ++ leavesOfAll rest

end

def IsUnion (t : Annotation) : Prop :=
  ∃ style members, t = .union style members

/-- A member of the union that an annotation is, is itself a union once its wrappers are off. -/
def HidesUnion (t : Annotation) : Prop :=
  ∃ style members, t.strip = .union style members ∧ ∃ member ∈ members, member.strip.IsUnion

namespace LiteralTree

variable {t : Annotation}

theorem asType_eq (h : LiteralTree t) : t.asType = t := by
  cases h <;> rfl

theorem isNoneValue (h : LiteralTree t) : t.isNoneValue = false := by
  cases h <;> rfl

theorem of_mem_members (h : LiteralTree t) : t.members ≠ [] ∧ ∀ u ∈ t.members, LiteralTree u := by
  cases h with
  | union style hne hmembers => exact ⟨hne, hmembers⟩
  | literal hne hvalues => exact ⟨nofun, List.forall_mem_singleton.mpr (.literal hne hvalues)⟩
  | synonym number name h => exact ⟨nofun, List.forall_mem_singleton.mpr (h.synonym number name)⟩
  | annotated metadata h => exact ⟨nofun, List.forall_mem_singleton.mpr (h.annotated metadata)⟩

theorem of_mem_barredMembers (h : LiteralTree t) :
    t.barredMembers ≠ [] ∧ ∀ u ∈ t.barredMembers, LiteralTree u := by
  unfold barredMembers
  split
  · exact h.of_mem_members
  · rw [h.asType_eq]
    exact ⟨nofun, List.forall_mem_singleton.mpr h⟩

/-- A union of trees is a tree, also if it is that of one tree only. -/
theorem joined (style : UnionStyle) {types : List Annotation} (hne : types ≠ [])
    (h : ∀ t ∈ types, LiteralTree t) :
    LiteralTree (match distinct types with
      | [t] => t
      | types => .union style types) := by
  have hkept : ∀ t ∈ distinct types, LiteralTree t := fun t ht ↦ h t (mem_of_mem_distinct ht)
  split
  · rename_i t hlone
    exact hkept t (hlone ▸ List.mem_singleton_self t)
  · exact .union style (distinct_ne_nil hne) hkept

theorem unionOf {types : List Annotation} (hne : types ≠ []) (h : ∀ t ∈ types, LiteralTree t) :
    LiteralTree (unionOf types) := by
  have hasType : types.map asType = types :=
    (List.map_congr_left fun t ht ↦ (h t ht).asType_eq).trans (List.map_id' types)
  have hmembers : ∀ u ∈ types.flatMap Annotation.members, LiteralTree u := by
    intro u hu
    obtain ⟨t, ht, hu⟩ := List.mem_flatMap.mp hu
    exact (h t ht).of_mem_members.2 u hu
  have hsome : types.flatMap Annotation.members ≠ [] := by
    obtain ⟨t, ht⟩ := List.exists_mem_of_ne_nil types hne
    exact fun hnil ↦ (h t ht).of_mem_members.1 (List.flatMap_eq_nil_iff.mp hnil t ht)
  unfold Annotation.unionOf unionOfMembers
  rw [hasType]
  exact joined .named hsome hmembers

theorem bar {a b : Annotation} (ha : LiteralTree a) (hb : LiteralTree b) : LiteralTree (a.or b) := by
  unfold Annotation.or
  split
  · refine joined .barred (List.append_ne_nil_of_left_ne_nil ha.of_mem_barredMembers.1 _) ?_
    intro t ht
    rcases List.mem_append.mp ht with hleft | hright
    · exact ha.of_mem_barredMembers.2 t hleft
    · exact hb.of_mem_barredMembers.2 t hright
  · exact unionOf nofun (List.forall_mem_cons.mpr ⟨ha, List.forall_mem_singleton.mpr hb⟩)

theorem annotatedWith (h : LiteralTree t) (metadata : List Metadata) :
    LiteralTree (t.annotatedWith metadata) := by
  unfold Annotation.annotatedWith
  rw [h.asType_eq]
  split
  · cases h with
    | annotated own h => exact h.annotated _
  · exact h.annotated metadata

/-- What is written from literals is a tree of literals. -/
theorem of_written (h : WrittenFromLiterals t) : LiteralTree t := by
  induction h with
  | literal hne hargs =>
    exact .literal (Value.distinct_ne_nil hne) fun v hv ↦ hargs v (Value.mem_of_mem_distinct hv)
  | union hne _ ih => exact unionOf hne ih
  | bar _ _ iha ihb => exact iha.bar ihb
  | synonym number name _ ih => exact ih.synonym number name
  | annotated metadata _ ih => exact ih.annotatedWith metadata

/-! ## Leaves -/

/-- Without its wrappers a tree is a literal or a union, with the same leaves. -/
theorem strip (h : LiteralTree t) :
    LiteralTree t.strip ∧ t.leaves = t.strip.leaves ∧
      ((∃ values, t.strip = .literal values) ∨ t.strip.IsUnion) := by
  induction h with
  | @literal values hne hvalues => exact ⟨.literal hne hvalues, rfl, .inl ⟨values, rfl⟩⟩
  | @union members style hne hmembers _ =>
    exact ⟨.union style hne hmembers, rfl, .inr ⟨style, members, rfl⟩⟩
  | synonym number name h ih =>
    unfold Annotation.strip
    rw [h.isNoneValue]
    exact ih
  | annotated metadata h ih =>
    unfold Annotation.strip
    rw [h.isNoneValue]
    exact ih

theorem leavesOfAll_eq (types : List Annotation) : leavesOfAll types = types.flatMap leaves := by
  induction types with
  | nil => rfl
  | cons first rest ih => rw [leavesOfAll, ih, List.flatMap_cons]

/-- A tree has values at its leaves, and all of them have a schema. -/
theorem leaves_spec (h : LiteralTree t) : t.leaves ≠ [] ∧ ∀ v ∈ t.leaves, IsLeaf v := by
  induction h with
  | literal hne hvalues => exact ⟨hne, hvalues⟩
  | @union members style hne _ ih =>
    rw [leaves, leavesOfAll_eq]
    constructor
    · obtain ⟨member, hmember⟩ := List.exists_mem_of_ne_nil members hne
      exact fun hnil ↦ (ih member hmember).1 (List.flatMap_eq_nil_iff.mp hnil member hmember)
    · intro v hv
      obtain ⟨member, hmember, hv⟩ := List.mem_flatMap.mp hv
      exact (ih member hmember).2 v hv
  | synonym number name _ ih => exact ih
  | annotated metadata _ ih => exact ih

end LiteralTree

end Annotation

namespace Module

open Annotation

section

variable [Environment] {m : Module} {t : Annotation} {v : Value}

theorem isLiteralOf_of_strip (h : t.strip = .literal [v]) : m.IsLiteralOf t v := by
  have hstrip : t.strip = (literal [v]).strip := h
  have hliteral := m.isLiteralOf_literal v
  exact ⟨(flags_of_strip hstrip).trans hliteral.flags,
    (literalValue_of_strip hstrip).trans hliteral.value, (render_of_strip hstrip).trans hliteral.render⟩

theorem forall₂_literalOfValue (m : Module) {values : List Value} (h : ∀ v ∈ values, IsLeaf v) :
    List.Forall₂ m.IsLiteralOf (values.map literalOfValue) values := by
  rw [List.forall₂_map_left_iff, List.forall₂_same]
  intro v hv
  rw [literalOfValue_of_literalType (h v hv).2]
  exact m.isLiteralOf_literal v

/-- A member of a union that is no union itself counts as the literals at its leaves. -/
theorem forall₂_flattened (m : Module) (h : LiteralTree t) (hunion : ¬ t.strip.IsUnion) :
    List.Forall₂ m.IsLiteralOf t.flattened t.leaves := by
  obtain ⟨hstrip, hleaves, hshape⟩ := h.strip
  obtain ⟨values, hvalues⟩ := hshape.resolve_right hunion
  rw [hvalues] at hstrip hleaves
  have hspec : ∀ v ∈ values, IsLeaf v := hstrip.leaves_spec.2
  rw [hleaves, leaves, flattened, hvalues]
  match values with
  | [] => exact absurd rfl hstrip.leaves_spec.1
  | [v] => exact .cons (isLiteralOf_of_strip hvalues) .nil
  | _ :: _ :: _ => exact m.forall₂_literalOfValue hspec

/-- Where no member hides a union, the flattened members are the leaves. -/
theorem forall₂_flatMap_flattened (m : Module) {members : List Annotation}
    (h : ∀ t ∈ members, LiteralTree t) (hunion : ∀ t ∈ members, ¬ t.strip.IsUnion) :
    List.Forall₂ m.IsLiteralOf (members.flatMap flattened) (leavesOfAll members) := by
  induction members with
  | nil => exact .nil
  | cons first rest ih =>
    obtain ⟨hfirst, hrest⟩ := List.forall_mem_cons.mp h
    obtain ⟨hunion, hunions⟩ := List.forall_mem_cons.mp hunion
    rw [List.flatMap_cons, leavesOfAll]
    exact List.rel_append (m.forall₂_flattened hfirst hunion) (ih hrest hunions)

/-! ## Compilations -/

structure CompilesTree (m : Module) (t : Annotation) : Prop where
  single {v : Value} (hstrip : t.strip = .literal [v]) (hshort : ¬ m.model.DocumentsOverlong t) :
    ∃ node, (m.model.compile t).outcome = .ok node ∧ Dict.get? "const" node = some v.toJson
  several (hstrip : ∀ v, t.strip ≠ .literal [v]) (hplain : ¬ t.HidesUnion) :
    m.CompilesValues t (t.leaves.map Value.toJson)
  hidden (hhides : t.HidesUnion) :
    (m.model.compile t).outcome = .error (.ofError (.unsupportedType .complexUnion t.render))

/-- A tree of one leaf is a constant. -/
theorem compile_lone (h : LiteralTree t) (hstrip : t.strip = .literal [v])
    (hshort : ¬ m.model.DocumentsOverlong t) :
    ∃ node, (m.model.compile t).outcome = .ok node ∧ Dict.get? "const" node = some v.toJson := by
  have hleaf : IsLeaf v := by
    apply h.leaves_spec.2
    rw [h.strip.2.1, hstrip]
    exact List.mem_singleton_self v
  obtain ⟨type, htype⟩ := Option.ne_none_iff_exists'.mp hleaf.2
  obtain ⟨tags, htags⟩ := m.exists_tagTexts t
  have hnode : Constraint.HasTextType [("type", .str type.name), ("const", v.toJson)] :=
    hasTextType_of_get? rfl
  obtain ⟨gate, hgate⟩ := hnode.exists_gate
  rw [outcome_compile_of_isLiteralOf (isLiteralOf_of_strip hstrip) hleaf.1 htype htags]
  cases happlied : (Constraint.applied [("type", .str type.name), ("const", v.toJson)] tags
      (Symbol.descriptionOf (m.model.symbol t))).outcome with
  | ok node =>
    exact ⟨node, rfl, Constraint.get?_applied_builtKey (by decide) hgate happlied⟩
  | error failure =>
    -- Only a length that is too long to convert keeps a pass from its end.
    obtain ⟨-, tag, text, htext, hlong⟩ :=
      (Constraint.applied_eq_error_iff_overlong hnode).mp happlied
    exact absurd ⟨tag, hlong.mem, text, ⟨_, tags, .type .refl, htags, htext⟩, hlong.isOverlong⟩ hshort

theorem classify_of_union (hflags : m.flags t = .ok [.union]) : m.model.classify t = .ok .union :=
  TypeModel.classify_of_plainUnion hflags rfl rfl rfl

/-- The members of a tree that is no literal of one value. -/
theorem unionMembers_of_tree (h : LiteralTree t) (hstrip : ∀ v, t.strip ≠ .literal [v]) :
    m.flags t = .ok [.union] ∧
      (¬ t.HidesUnion → List.Forall₂ m.IsLiteralOf (m.unionMembers t) t.leaves) := by
  obtain ⟨htree, hleaves, hshape⟩ := h.strip
  have hflags : m.flags t = m.flags t.strip := flags_of_strip (strip_strip t).symm
  have hmembers : m.unionMembers t = m.unionMembers t.strip :=
    unionMembers_of_strip (strip_strip t).symm
  rw [hflags, hmembers, hleaves]
  rcases hshape with ⟨values, hvalues⟩ | ⟨style, members, hunion⟩
  · rw [hvalues] at htree ⊢
    refine ⟨?_, fun _ ↦ m.forall₂_literalOfValue htree.leaves_spec.2⟩
    match values with
    | [] => rfl
    | [v] => exact absurd hvalues (hstrip v)
    | _ :: _ :: _ => rfl
  · rw [hunion] at htree ⊢
    refine ⟨rfl, fun hplain ↦ ?_⟩
    cases htree with
    | union _ _ htrees =>
      refine m.forall₂_flatMap_flattened htrees fun member hmember hnested ↦ hplain ?_
      exact ⟨style, members, hunion, member, hmember, hnested⟩

/-- A tree of several leaves is an enumeration of them. -/
theorem compile_tree (h : LiteralTree t) (hstrip : ∀ v, t.strip ≠ .literal [v])
    (hplain : ¬ t.HidesUnion) : m.CompilesValues t (t.leaves.map Value.toJson) := by
  obtain ⟨hflags, hliterals⟩ := unionMembers_of_tree (m := m) h hstrip
  obtain ⟨tags, htags⟩ := m.exists_tagTexts t
  obtain ⟨hne, hleaves⟩ := h.leaves_spec
  have hvalues : m.model.literalValues (m.model.unionMembers t) =
      .ok (some (t.leaves.map Value.toJson)) :=
    literalValues_of_literals (hliterals hplain) (fun v hv ↦ (hleaves v hv).1)
      fun v hv ↦ (hleaves v hv).2
  unfold CompilesValues
  rw [TypeModel.compile_union (m.depth_ne_zero t) htags (classify_of_union hflags) hvalues
    (List.map_eq_nil_iff.not.mpr hne)]
  exact Constraint.exists_applied_enum _ tags _

/-- A member with a union behind its wrappers has the flag of a union and of no literal. -/
theorem flags_of_isUnion (h : t.strip.IsUnion) : m.flags t = .ok [.union] := by
  obtain ⟨style, members, hunion⟩ := h
  have hstrip : t.strip = (union style members).strip := hunion
  exact flags_of_strip hstrip

/-- A member of a tree can be asked for its flags. -/
theorem exists_flags_flattened (m : Module) (h : LiteralTree t) :
    ∀ u ∈ t.flattened, ∃ flags, m.flags u = .ok flags := by
  by_cases hunion : t.strip.IsUnion
  · obtain ⟨style, members, hstrip⟩ := hunion
    rw [flattened, hstrip]
    exact List.forall_mem_singleton.mpr ⟨_, flags_of_isUnion ⟨style, members, hstrip⟩⟩
  · intro u hu
    obtain ⟨v, -, hliteral⟩ := Outcome.exists_of_mem_left (m.forall₂_flattened h hunion) hu
    exact ⟨v.flags, hliteral.flags⟩

/-- A hidden union makes the whole union too complex. -/
theorem compile_hidden (h : LiteralTree t) (hhides : t.HidesUnion) :
    (m.model.compile t).outcome = .error (.ofError (.unsupportedType .complexUnion t.render)) := by
  obtain ⟨style, members, hunion, member, hmember, hnested⟩ := hhides
  obtain ⟨tags, htags⟩ := m.exists_tagTexts t
  have htrees : ∀ u ∈ members, LiteralTree u := by
    have htree := h.strip.1
    rw [hunion] at htree
    cases htree with
    | union _ _ htrees => exact htrees
  have hmembers : m.unionMembers t = members.flatMap flattened := by
    unfold unionMembers
    rw [hunion]
  have hself : member ∈ member.flattened := by
    obtain ⟨_, _, hstrip⟩ := hnested
    rw [flattened, hstrip]
    exact List.mem_singleton_self member
  have hvalues : m.model.literalValues (m.unionMembers t) = .ok none := by
    rw [hmembers]
    refine literalValues_eq_none (fun u hu ↦ ?_)
      ⟨member, List.mem_flatMap_of_mem hmember hself, _, flags_of_isUnion hnested, rfl⟩
    obtain ⟨other, hother, hu⟩ := List.mem_flatMap.mp hu
    exact m.exists_flags_flattened (htrees other hother) u hu
  have hcategory : m.model.classify t = .ok .union :=
    classify_of_union (flags_of_isUnion ⟨style, members, hunion⟩)
  exact TypeModel.compile_complexUnion (m.depth_ne_zero t) htags hcategory hvalues rfl

/-- Whatever is written with literals, unions, aliases and metadata is compiled to the constant or to the
values of its leaves, unless a union stands behind an alias or metadata as a member of another one. -/
theorem compile_nestedLiterals (m : Module) {t : Annotation} (h : WrittenFromLiterals t) :
    m.CompilesTree t where
  single hstrip hshort := compile_lone (.of_written h) hstrip hshort
  several hstrip hplain := compile_tree (.of_written h) hstrip hplain
  hidden hhides := compile_hidden (.of_written h) hhides

end

def namedPair : Annotation :=
  .synonym 0 "Pair" (.literalOf [.str "a", .int 1])

/-- The documented union of a union of the pair and a truth value, of two texts behind metadata, and of
the pair again, which is dropped. -/
def nestedUnion : Annotation :=
  let texts : Annotation := (literalOf [.str "b", .str "a"]).annotatedWith [.plain (.int 0)]
  (unionOf [namedPair.or (.literalOf [.bool true]), texts, namedPair]).annotatedWith
    [.doc "A choice."]

theorem writtenFromLiterals_nestedUnion : WrittenFromLiterals nestedUnion := by
  have hpair : WrittenFromLiterals namedPair := .synonym 0 "Pair" (.literal nofun (by simp))
  have htruth : WrittenFromLiterals (.literalOf [.bool true]) := .literal nofun (by simp)
  have htexts : WrittenFromLiterals (.literalOf [.str "b", .str "a"]) := .literal nofun (by simp)
  refine .annotated _ (.union nofun ?_)
  simp only [List.mem_cons, List.not_mem_nil, or_false, forall_eq_or_imp, forall_eq]
  exact ⟨.bar hpair htruth, .annotated _ htexts, hpair⟩

theorem strip_nestedUnion :
    nestedUnion.strip = .union .named [namedPair, .literal [.bool true],
      .annotated (.literal [.str "b", .str "a"]) [.plain (.int 0)]] := by
  simp [nestedUnion, namedPair, Annotation.or, isBarred, Annotation.unionOf, unionOfMembers, distinct,
    Annotation.same, literalOf, Value.distinct, Value.unhashableIn?, Value.unhashable?, asType,
    Annotation.members, Value.sameLiteral, Value.equal, Value.kind, Value.plain,
    Annotation.annotatedWith, Annotation.strip, isNoneValue]

attribute [local instance] Environment.plain

/-- The leaves stand in the order in which they are written. -/
theorem compile_nestedLiterals_pair :
    WrittenFromLiterals nestedUnion ∧
      Module.empty.CompilesValues nestedUnion [.str "a", .int 1, .bool true, .str "b", .str "a"] := by
  have hwritten := writtenFromLiterals_nestedUnion
  have hvalues : nestedUnion.leaves.map Value.toJson =
      [.str "a", .int 1, .bool true, .str "b", .str "a"] := by
    rw [(LiteralTree.of_written hwritten).strip.2.1, strip_nestedUnion]
    rfl
  have hsingle (v : Value) : nestedUnion.strip ≠ .literal [v] := by
    rw [strip_nestedUnion]
    exact nofun
  have hplain : ¬ nestedUnion.HidesUnion := by
    rintro ⟨style, members, hunion, member, hmember, style', members', hnested⟩
    cases strip_nestedUnion.symm.trans hunion
    simp only [List.mem_cons, List.not_mem_nil, or_false] at hmember
    rcases hmember with rfl | rfl | rfl <;> cases hnested
  exact ⟨hwritten, hvalues ▸ (compile_nestedLiterals Module.empty hwritten).several hsingle hplain⟩

/-- An alias of a union of two texts, in a union with a third one. -/
def hiddenUnion : Annotation :=
  .unionOf [.synonym 0 "U" (.unionOf [.literalOf [.str "a"], .literalOf [.str "b"]]),
    .literalOf [.str "c"]]

/-- A union behind an alias is not taken in by another union, though it is written with literals too. -/
theorem compile_hiddenUnion :
    WrittenFromLiterals hiddenUnion ∧ hiddenUnion.leaves = [.str "a", .str "b", .str "c"] ∧
      (Module.empty.model.compile hiddenUnion).outcome =
        .error (.ofError (.unsupportedType .complexUnion hiddenUnion.render)) := by
  have hwritten : WrittenFromLiterals hiddenUnion := by
    have htext (text : String) : WrittenFromLiterals (.literalOf [.str text]) :=
      .literal nofun (by simp)
    refine .union nofun (List.forall_mem_cons.mpr ⟨.synonym 0 "U" (.union nofun ?_), ?_⟩)
    · exact List.forall_mem_cons.mpr ⟨htext "a", List.forall_mem_singleton.mpr (htext "b")⟩
    · exact List.forall_mem_singleton.mpr (htext "c")
  have hunion : hiddenUnion = .union .named [.synonym 0 "U"
      (.union .named [.literal [.str "a"], .literal [.str "b"]]), .literal [.str "c"]] := by
    simp [hiddenUnion, Annotation.unionOf, unionOfMembers, distinct, Annotation.same, literalOf,
      Value.distinct, Value.unhashableIn?, Value.unhashable?, asType, Annotation.members, Value.sameSet,
      Value.sameLiteral, Value.equal, Value.kind, Value.plain]
  refine ⟨hwritten, by rw [hunion]; rfl, compile_hidden (.of_written hwritten) ?_⟩
  rw [hunion]
  exact ⟨_, _, rfl, _, List.mem_cons_self, _, _, rfl⟩

end Module

end Schematic
