import Schematic.Proofs.NodeShape
import Schematic.Proofs.TagNumbers

/-!
# Lengths, counts and factors

A length or a count is the integer at the front of a tag, sign included, and a factor is the
double nearest to the number at the front of its tag. So a length is negative only where its
tag has a minus sign, and a factor is positive exactly where the number written in its tag is
not rounded to zero and has no minus sign.
-/

namespace Schematic

namespace Node

open Constraint

/-- Lengths and counts are natural numbers, and a factor is positive. -/
structure DraftBounds (node : Node) : Prop where
  count : ∀ keyword ∈ lengthTags ++ countTags, ∀ value, Dict.get? keyword node = some value →
    ∃ n : Nat, value = .int n
  factor : ∀ value, Dict.get? "multipleOf" node = some value → value.IsPositive

/-- Lengths, counts and factors are what the texts of tags say. -/
structure SpelledBounds (documented : String → String → Prop) (node : Node) : Prop where
  count : ∀ keyword ∈ lengthTags ++ countTags, ∀ value, Dict.get? keyword node = some value →
    ∃ text n, documented keyword text ∧ Tag.count? text = .ok (some n) ∧ value = .int n
  factor : ∀ value, Dict.get? "multipleOf" node = some value →
    ∃ text, documented "multipleOf" text ∧ Tag.number? text = some value

/-- Lengths and counts are integers that are negative only where a tag has a minus sign, and a factor
is positive exactly where a tag has a number that is not rounded to zero and has no minus sign. -/
structure TaggedBounds (documented : String → String → Prop) (node : Node) : Prop where
  count : ∀ keyword ∈ lengthTags ++ countTags, ∀ value, Dict.get? keyword node = some value →
    ∃ text n, documented keyword text ∧ value = .int n ∧ (n < 0 → Tag.HasMinus text)
  factor : ∀ value, Dict.get? "multipleOf" node = some value → value.IsNumber ∧
    ∃ text numeral, documented "multipleOf" text ∧
      Tag.Numeral.read? text.toList = some numeral ∧
      (value.IsPositive ↔ Double.halfLeast < numeral.number)

variable {documented : String → String → Prop} {node : Node}

/-- The texts tell which bounds can be negative. -/
theorem SpelledBounds.tagged (h : SpelledBounds documented node) :
    TaggedBounds documented node where
  count := by
    intro keyword hkeyword value hvalue
    obtain ⟨text, n, htext, hcount, rfl⟩ := h.count keyword hkeyword value hvalue
    exact ⟨text, n, htext, rfl, Tag.hasMinus_of_count? hcount⟩
  factor := by
    intro value hvalue
    obtain ⟨text, htext, hnumber⟩ := h.factor value hvalue
    obtain ⟨his, numeral, hnumeral, hpositive⟩ := Tag.number_of_number? hnumber
    exact ⟨his, text, numeral, htext, hnumeral, hpositive⟩

/-! ## Built nodes and passes -/

/-- Builders set the type and the structure of a schema only. -/
theorem get?_built_eq_none {τ ι : Type} {model : TypeModel τ ι} {compiled : τ → Node → Prop}
    {type : τ} {category : Category} {base : Node} {key : String} (hkey : key ∉ "type" :: builtKeys)
    (h : TypeModel.Built model compiled type category base) : Dict.get? key base = none := by
  have hne : ∀ other ∈ "type" :: builtKeys, other ≠ key := by
    intro other hother heq
    exact hkey (heq ▸ hother)
  have htype : "type" ≠ key := hne _ (by decide)
  have hconst : "const" ≠ key := hne _ (by decide)
  have henum : "enum" ≠ key := hne _ (by decide)
  have hitems : "items" ≠ key := hne _ (by decide)
  cases h with
  | object =>
    refine TypeModel.get?_objectNode_eq_none fun hobject ↦ hkey ?_
    exact (by decide : ["type", "properties", "required"] ⊆ "type" :: builtKeys) hobject
  | _ => simp [Dict.get?, htype, hconst, henum, hitems]

/-- A node that is built has no bounds yet. -/
theorem spelledBounds_of_built {τ ι : Type} {model : TypeModel τ ι} {compiled : τ → Node → Prop}
    {type : τ} {category : Category} {base : Node}
    (h : TypeModel.Built model compiled type category base) : SpelledBounds documented base where
  count := by
    intro keyword hkeyword value hvalue
    have hother : ∀ keyword ∈ lengthTags ++ countTags, keyword ∉ "type" :: builtKeys := by decide
    rw [get?_built_eq_none (hother keyword hkeyword) h] at hvalue
    cases hvalue
  factor := by
    intro value hvalue
    rw [get?_built_eq_none (by decide) h] at hvalue
    cases hvalue

/-- A length is the integer of its tag. -/
theorem count_of_admits {tags : Dict String} {gate : Gate} {key : String} {value : Json}
    (hkey : key ∈ lengthTags ++ countTags) (h : Admits tags gate key value) :
    ∃ text n, Dict.get? key tags = some text ∧ Tag.count? text = .ok (some n) ∧
      value = .int n := by
  cases h with
  | @length tag text n htag htext hvalue => exact ⟨text, n, htext, hvalue, rfl⟩
  | @count tag text n htag htext hvalue => exact ⟨text, n, htext, hvalue, rfl⟩
  | range htag =>
    exact absurd hkey ((by decide : ∀ tag ∈ numericTags, tag ∉ lengthTags ++ countTags) _ htag)
  | form htag =>
    exact absurd hkey ((by decide : ∀ tag ∈ formTags, tag ∉ lengthTags ++ countTags) _ htag)
  | extension =>
    have hhead : ∀ tag ∈ lengthTags ++ countTags, tag.toList.head? ≠ some 'x' := by decide
    exact absurd (by rw [toList_extensionKey]; rfl) (hhead _ hkey)
  | description | integer | default => exact absurd hkey (by decide)

/-- A factor is the number of its tag. -/
theorem factor_of_admits {tags : Dict String} {gate : Gate} {value : Json}
    (h : Admits tags gate "multipleOf" value) :
    ∃ text, Dict.get? "multipleOf" tags = some text ∧ Tag.number? text = some value := by
  generalize hkey : "multipleOf" = key at h
  cases h with
  | @range tag text value htag htext hvalue => exact ⟨text, htext, hvalue⟩
  | length htag => exact absurd htag (hkey ▸ by decide)
  | form htag => exact absurd htag (hkey ▸ by decide)
  | count htag => exact absurd htag (hkey ▸ by decide)
  | extension =>
    have hhead : "multipleOf".toList.head? = some 'x' := by
      rw [hkey, toList_extensionKey]
      rfl
    exact absurd hhead (by decide)
  | description | integer | default => exact absurd hkey (by decide)

theorem SpelledBounds.set {tags : Dict String} {gate : Gate} {key : String} {value : Json}
    (htags : ∀ tag text, Dict.get? tag tags = some text → documented tag text)
    (hadmits : Admits tags gate key value) (h : SpelledBounds documented node) :
    SpelledBounds documented (Dict.set key value node) where
  count := by
    intro keyword hkeyword found hfound
    rw [Dict.get?_set] at hfound
    split at hfound
    · rename_i hkey
      obtain rfl : value = found := Option.some.inj hfound
      subst hkey
      obtain ⟨text, n, htext, hcount, rfl⟩ := count_of_admits hkeyword hadmits
      exact ⟨text, n, htags _ _ htext, hcount, rfl⟩
    · exact h.count keyword hkeyword found hfound
  factor := by
    intro found hfound
    rw [Dict.get?_set] at hfound
    split at hfound
    · rename_i hkey
      obtain rfl : value = found := Option.some.inj hfound
      subst hkey
      obtain ⟨text, htext, hnumber⟩ := factor_of_admits hadmits
      exact ⟨text, htags _ _ htext, hnumber⟩
    · exact h.factor found hfound

end Node

namespace TypeModel

variable {τ ι : Type} [BEq ι]

/-- At every depth, bounds are what tags spell. -/
theorem compile_spelledBounds {model : TypeModel τ ι} {root : τ} {node : Node}
    (h : (model.compile root).outcome = .ok node) :
    Node.Everywhere (Node.SpelledBounds (model.Documented root)) node := by
  rw [outcome_compile] at h
  refine compileUnder_everywhere_below (fun _ ↦ Node.spelledBounds_of_built) ?_ h
  intro base nested symbol tags gate hsymbol htags hgate hnested hbase
  have hdocumented : ∀ tag text, Dict.get? tag tags = some text → model.Documented root tag text :=
    fun tag text htext ↦ ⟨symbol, tags, hsymbol, htags, htext⟩
  exact Constraint.applied_induction hgate (fun _ _ _ ↦ Node.SpelledBounds.set hdocumented) hbase
    hnested

/-- At every node of a compiled schema, lengths and counts are integers that are negative only where
their tag has a minus sign, and a factor is a number that is positive exactly where its tag has one
greater than half of the least positive double. So they are what a schema may have if all tags below
the type are. -/
theorem compile_bounds (model : TypeModel τ ι) (root : τ) (node : Node)
    (h : (model.compile root).outcome = .ok node) :
    Node.Everywhere (Node.TaggedBounds (model.Documented root)) node ∧
      ((∀ keyword ∈ Constraint.lengthTags ++ Constraint.countTags, ∀ text,
          model.Documented root keyword text → ¬ Tag.HasMinus text) →
        (∀ text numeral, model.Documented root "multipleOf" text →
          Tag.Numeral.read? text.toList = some numeral → Double.halfLeast < numeral.number) →
        Node.Everywhere Node.DraftBounds node) := by
  have htagged : Node.Everywhere (Node.TaggedBounds (model.Documented root)) node :=
    fun nested hnested ↦ (compile_spelledBounds h nested hnested).tagged
  refine ⟨htagged, fun hcounts hfactors nested hnested ↦ ⟨?_, ?_⟩⟩
  · intro keyword hkeyword value hvalue
    obtain ⟨text, n, htext, rfl, hminus⟩ :=
      (htagged nested hnested).count keyword hkeyword value hvalue
    have hn : 0 ≤ n := by
      by_contra hnegative
      exact hcounts keyword hkeyword text htext (hminus (not_le.mp hnegative))
    exact ⟨n.toNat, by rw [Int.toNat_of_nonneg hn]⟩
  · intro value hvalue
    obtain ⟨-, text, numeral, htext, hnumeral, hpositive⟩ :=
      (htagged nested hnested).factor value hvalue
    exact hpositive.mpr (hfactors text numeral htext hnumeral)

end TypeModel

namespace Scripted

open TypeModel

def labelTable : Table :=
  [{ name := "Label", flags := [.string], symbol := some ⟨"Label", [], [⟨"minLength", ["3"]⟩]⟩ }]

/-- The only tag of the table is its length. -/
theorem documented_label {name text : String} (h : (model labelTable).Documented 0 name text) :
    name = "minLength" ∧ text = "3" := by
  have hplain : (model labelTable).classify 0 = .ok .string := rfl
  have htext : Dict.get? name [("minLength", "3")] = some text :=
    h.get?_of_leaf hplain (by decide) rfl
  simpa [Dict.get?, eq_comm] using htext

theorem compile_bounds_label :
    ((model labelTable).compile 0).outcome =
        .ok [("type", .str "string"), ("minLength", .int 3)] ∧
      Node.TaggedBounds ((model labelTable).Documented 0)
        [("type", .str "string"), ("minLength", .int 3)] ∧
      Node.DraftBounds [("type", .str "string"), ("minLength", .int 3)] := by
  have hlabel : ((model labelTable).compile 0).outcome =
      .ok [("type", .str "string"), ("minLength", .int 3)] := rfl
  obtain ⟨htagged, hbounds⟩ := compile_bounds (model labelTable) 0 _ hlabel
  refine ⟨hlabel, htagged _ .refl, hbounds ?_ ?_ _ .refl⟩
  · intro keyword _ text htext
    rw [(documented_label htext).2]
    unfold Tag.HasMinus
    decide
  · intro text numeral htext
    exact absurd (documented_label htext).1 (by decide)

/-- A text of negative length, and a multiple of a negative number. -/
def voidTable : Table :=
  [{ name := "Void", flags := [.object],
     members := [⟨"label", 1, false, none⟩, ⟨"weight", 2, false, none⟩] },
   { name := "Label", flags := [.string], symbol := some ⟨"Label", [], [⟨"minLength", ["-1"]⟩]⟩ },
   { name := "Weight", flags := [.number],
     symbol := some ⟨"Weight", [], [⟨"multipleOf", ["-2"]⟩]⟩ }]

def voidNode : Node :=
  [("type", .str "object"),
    ("properties", .obj
      [("label", .obj [("type", .str "string"), ("minLength", .int (-1))]),
        ("weight", .obj [("type", .str "number"), ("multipleOf", .int (-2))])]),
    ("required", .arr [.str "label", .str "weight"])]

/-- Tags may ask for what no schema may have. -/
theorem compile_not_draftBounds :
    ((model voidTable).compile 0).outcome = .ok voidNode ∧
      (∃ child, Node.Child voidNode child ∧ ∃ value,
        Dict.get? "minLength" child = some value ∧ ¬ ∃ n : Nat, value = .int n) ∧
      (∃ child, Node.Child voidNode child ∧ ∃ value,
        Dict.get? "multipleOf" child = some value ∧ ¬ value.IsPositive) ∧
      ¬ Node.Everywhere Node.DraftBounds voidNode := by
  have hlabel : Node.Child voidNode [("type", .str "string"), ("minLength", .int (-1))] :=
    .property rfl List.mem_cons_self
  have hweight : Node.Child voidNode [("type", .str "number"), ("multipleOf", .int (-2))] :=
    .property rfl (List.mem_cons_of_mem _ List.mem_cons_self)
  have hnegative : ¬ ∃ n : Nat, Json.int (-1) = .int n := by
    rintro ⟨n, hn⟩
    have hvalue : (-1 : Int) = n := Json.int.inj hn
    omega
  refine ⟨rfl, ⟨_, hlabel, _, rfl, hnegative⟩, ⟨_, hweight, _, rfl, ?_⟩, ?_⟩
  · exact (by decide : ¬ (0 : Int) < -2)
  · intro hbounds
    exact hnegative ((hbounds _ (.single hlabel)).count "minLength" (by decide) _ rfl)

end Scripted

end Schematic
