import Schematic.Proofs.Reading
import Schematic.Proofs.Subschema
import Schematic.Proofs.TagNumbers

/-!
# Schemas of finite numbers

A compiled schema has every hereditary property that the literals below the type have and the
values of the tags that are taken as values. So it has no number that is infinite or undefined
as long as the literals are finite and the numerals of those tags in range: the numbers of
numeric tags are finite in any case, but a numeral that is beyond the doubles may bring in an
infinite one. And its keys are distinct as soon as those of the literals are.
-/

namespace Schematic

open Json (Hereditary IsFinite)
open Json.Grammar (IsText)

/-! ## Values of tags -/

theorem Json.Hereditary.number {P : Json → Prop} (hP : Hereditary P) {value : Json}
    (h : value.IsNumber) : P value := by
  cases value with
  | int n => exact hP.int n
  | float x => exact hP.float h
  | _ => cases h

namespace Tag

/-- A text that, if it is JSON, has its numerals in range. -/
def InRange (text : String) : Prop :=
  ∀ numerals, IsText text.toList numerals → ∀ numeral ∈ numerals, numeral.InRange

/-- A text with numerals in range has a finite value. -/
theorem isFinite_value {text : String} (h : InRange text) : (value text).IsFinite := by
  unfold value
  cases hread : Json.read? text.toList with
  | none => exact Json.isFinite_str text
  | some read =>
    obtain ⟨numerals, htext, hfinite⟩ := Json.read?_sound hread
    exact hfinite (h numerals htext)

/-- The value of a text has distinct keys, as repeated ones are merged. -/
theorem hasDistinctKeys_value (text : String) : (value text).HasDistinctKeys := by
  unfold value
  cases hread : Json.read? text.toList with
  | none => exact Json.hereditary_hasDistinctKeys.str text
  | some read => exact Json.hasDistinctKeys_of_read? hread

end Tag

/-! ## Passes -/

namespace Constraint

/-- The tags whose texts are taken as values. -/
def TakesValue (tag : String) : Prop :=
  tag = defaultTag ∨ tag ∉ recognizedTags

/-- A constraint brings in values of its tag's text, or texts and numbers. -/
theorem property_of_admits {P : Json → Prop} (hP : Hereditary P) {tags : Dict String} {gate : Gate}
    {key : String} {value : Json}
    (htags : ∀ tag text, (tag, text) ∈ tags → TakesValue tag → P (Tag.value text))
    (h : Admits tags gate key value) : P value := by
  cases h with
  | description => exact hP.str _
  | range _ _ hvalue => exact hP.number (Tag.number_of_number? hvalue).1
  | integer => exact hP.str _
  | length => exact hP.int _
  | form => exact hP.str _
  | count => exact hP.int _
  | default gate htext => exact htags _ _ (Dict.mem_of_get?_eq_some htext) (.inl rfl)
  | extension gate hmem htag => exact htags _ _ hmem (.inr htag)

end Constraint

/-! ## Literals -/

namespace TypeModel

variable {τ ι : Type}

def HasLiteral (model : TypeModel τ ι) (type : τ) (value : Json) : Prop :=
  ∃ flags, model.flags type = .ok flags ∧ flags.isTextOrNumber = true ∧
    model.literal type = .ok value

/-- The literals that may come to the schema of a root: those of the types below it, and those of the
members of unions there. -/
inductive LiteralBelow (model : TypeModel τ ι) (root : τ) (value : Json) : Prop where
  | type {type : τ} (h : Relation.ReflTransGen model.Successor root type)
      (hvalue : model.HasLiteral type value)
  | member {type member : τ} (h : Relation.ReflTransGen model.Successor root type)
      (hmember : member ∈ model.unionMembers type) (hvalue : model.HasLiteral member value)

/-- At a type without parts, the literals are its own and those of its members. -/
theorem LiteralBelow.of_leaf {model : TypeModel τ ι} {root : τ} {category : Category}
    {value : Json} (hcategory : model.classify root = .ok category)
    (hleaf : category ∉ [.array, .object]) (h : model.LiteralBelow root value) :
    model.HasLiteral root value ∨ ∃ member ∈ model.unionMembers root,
      model.HasLiteral member value := by
  cases h with
  | type hbelow hvalue =>
    rw [eq_of_leaf hcategory hleaf hbelow] at hvalue
    exact .inl hvalue
  | member hbelow hmember hvalue =>
    rw [eq_of_leaf hcategory hleaf hbelow] at hmember
    exact .inr ⟨_, hmember, hvalue⟩

theorem hasLiteral_of_classify {model : TypeModel τ ι} {type : τ} {category : Category}
    {value : Json} (hcategory : model.classify type = .ok category)
    (hliteral : category ∈ [.stringLiteral, .numberLiteral])
    (hvalue : model.literal type = .ok value) : model.HasLiteral type value := by
  obtain ⟨flags, hflags, htext⟩ := isTextOrNumber_of_classify hcategory hliteral
  exact ⟨flags, hflags, htext, hvalue⟩

/-- The values of a union are literals of its members. -/
theorem hasLiteral_of_textAndNumberValues {model : TypeModel τ ι} {types : List τ}
    {values : List Json} (h : model.textAndNumberValues types = .ok values) :
    ∀ value ∈ values, ∃ type ∈ types, model.HasLiteral type value := by
  induction types generalizing values with
  | nil =>
    obtain rfl := Except.ok.inj h
    exact fun _ hvalue ↦ absurd hvalue List.not_mem_nil
  | cons type types ih =>
    have hmore {rest : List Json} (hrest : model.textAndNumberValues types = .ok rest) :
        ∀ value ∈ rest, ∃ other ∈ type :: types, model.HasLiteral other value := by
      intro value hvalue
      obtain ⟨other, hother, hliteral⟩ := ih hrest value hvalue
      exact ⟨other, List.mem_cons_of_mem _ hother, hliteral⟩
    obtain ⟨flags, hflags, h⟩ := Outcome.bind_eq_ok_iff.mp h
    split at h
    · rename_i hkind
      obtain ⟨first, hfirst, h⟩ := Outcome.bind_eq_ok_iff.mp h
      obtain ⟨rest, hrest, h⟩ := Outcome.bind_eq_ok_iff.mp h
      obtain rfl := Except.ok.inj h
      refine List.forall_mem_cons.mpr ⟨?_, hmore hrest⟩
      exact ⟨type, List.mem_cons_self, flags, hflags, hkind, hfirst⟩
    · exact hmore h

theorem hasLiteral_of_literalValues {model : TypeModel τ ι} {types : List τ} {values : List Json}
    (h : model.literalValues types = .ok (some values)) :
    ∀ value ∈ values, (∃ b, value = .bool b) ∨ ∃ type ∈ types, model.HasLiteral type value := by
  induction types generalizing values with
  | nil =>
    obtain rfl := Option.some.inj (Except.ok.inj h)
    exact fun _ hvalue ↦ absurd hvalue List.not_mem_nil
  | cons type types ih =>
    obtain ⟨flags, hflags, h⟩ := Outcome.bind_eq_ok_iff.mp h
    split at h
    · cases h
    · rename_i hkind
      have hfirst : ∃ first, ((∃ b, first = .bool b) ∨ model.HasLiteral type first) ∧
          (model.literalValues types >>= fun rest ↦ pure (rest.map (first :: ·))) =
            .ok (some values) := by
        dsimp only at h
        split at h
        · exact ⟨_, .inl ⟨_, rfl⟩, h⟩
        · rename_i hboolean
          obtain ⟨first, hfirst, h⟩ := Outcome.bind_eq_ok_iff.mp h
          refine ⟨first, .inr ⟨flags, hflags, ?_, hfirst⟩, h⟩
          have hliteral : flags.isLiteral = true := by simpa using hkind
          unfold Flags.isLiteral at hliteral
          rw [Bool.or_eq_true] at hliteral
          exact hliteral.resolve_right hboolean
      obtain ⟨first, hfirst, h⟩ := hfirst
      obtain ⟨rest?, hrest, h⟩ := Outcome.bind_eq_ok_iff.mp h
      obtain ⟨rest, rfl, rfl⟩ := Option.map_eq_some_iff.mp (Except.ok.inj h)
      refine List.forall_mem_cons.mpr ⟨?_, fun value hvalue ↦ ?_⟩
      · exact hfirst.imp_right fun hliteral ↦ ⟨type, List.mem_cons_self, hliteral⟩
      · refine (ih hrest value hvalue).imp_right ?_
        rintro ⟨other, hother, hliteral⟩
        exact ⟨other, List.mem_cons_of_mem _ hother, hliteral⟩

theorem hasLiteral_of_enumValues {model : TypeModel τ ι} {type : τ} {values : List Json}
    (h : model.enumValues type = .ok values) :
    ∀ value ∈ values, ∃ member ∈ model.unionMembers type, model.HasLiteral member value := by
  obtain ⟨flags, -, h⟩ := Outcome.bind_eq_ok_iff.mp h
  split at h
  · exact hasLiteral_of_textAndNumberValues h
  · obtain rfl := Except.ok.inj h
    exact fun _ hvalue ↦ absurd hvalue List.not_mem_nil

/-! ## Built nodes -/

/-- A node takes over the properties of its literals and of the nodes in it. -/
theorem property_of_built {P : Json → Prop} (hP : Hereditary P) {model : TypeModel τ ι}
    {compiled : τ → Node → Prop} {root type : τ} {category : Category} {base : Node}
    (hliterals : ∀ value, model.LiteralBelow root value → P value)
    (hbelow : Relation.ReflTransGen model.Successor root type)
    (hcategory : model.classify type = .ok category)
    (h : Built model compiled type category base)
    (hchildren : ∀ child, Node.Child base child → P (.obj child)) : P (.obj base) := by
  have hplain (name : String) : P (.obj [("type", .str name)]) :=
    hP.obj (List.nodup_singleton _) (List.forall_mem_singleton.mpr (hP.str name))
  have hpair (name : String) {key : String} (hkey : "type" ≠ key) {value : Json} (hvalue : P value) :
      P (.obj [("type", .str name), (key, value)]) :=
    hP.obj (by simp [Dict.keys, hkey])
      (List.forall_mem_cons.mpr ⟨hP.str name, List.forall_mem_singleton.mpr hvalue⟩)
  have henum {values : List Json} (hvalues : ∀ value ∈ values, P value) :
      P (.obj [("enum", .arr values)]) :=
    hP.obj (by simp [Dict.keys]) (List.forall_mem_singleton.mpr (hP.arr hvalues))
  cases h with
  | string | number | boolean | null | undefined | bareArray => exact hplain _
  | stringLiteral hvalue | numberLiteral hvalue =>
    refine hpair _ (by decide) (hliterals _ (.type hbelow ?_))
    exact hasLiteral_of_classify hcategory (by decide) hvalue
  | booleanLiteral => exact hpair _ (by decide) (hP.bool _)
  | enum hvalues =>
    refine henum fun value hvalue ↦ ?_
    obtain ⟨member, hmember, hliteral⟩ := hasLiteral_of_enumValues hvalues value hvalue
    exact hliterals value (.member hbelow hmember hliteral)
  | union hvalues =>
    refine henum fun value hvalue ↦ ?_
    rcases hasLiteral_of_literalValues hvalues value hvalue with
      ⟨b, rfl⟩ | ⟨member, hmember, hliteral⟩
    · exact hP.bool b
    · exact hliterals value (.member hbelow hmember hliteral)
  | array => exact hpair _ (by decide) (hchildren _ (.item rfl))
  | @object members properties =>
    rw [structNode_eq] at hchildren ⊢
    have hfields : P (.obj (Dict.ofList (properties.filterMap id |>.map fun property ↦
        (property.name, Json.obj property.schema)))) := by
      refine hP.obj (Dict.nodup_keys_ofList _) fun field hfield ↦ ?_
      obtain ⟨property, -, rfl⟩ := List.mem_map.mp (Dict.mem_of_mem_ofList hfield)
      exact hchildren _ (.property (get?_objectNode_properties _ _) hfield)
    have hrequired {names : List String} : ∀ field ∈ (if names.isEmpty then []
        else [("required", Json.strings names)]), P field.2 := by
      split
      · exact fun _ hfield ↦ absurd hfield List.not_mem_nil
      · exact List.forall_mem_singleton.mpr (hP.strings _)
    refine hP.obj (nodup_keys_objectNode _ _) (List.forall_mem_append.mpr ⟨?_, hrequired⟩)
    exact List.forall_mem_cons.mpr ⟨hP.str _, List.forall_mem_singleton.mpr hfields⟩

variable [BEq ι]

/-- A compiled schema has a hereditary property that the literals below the type have and the values
of the tags that are taken as values. -/
theorem property_of_compile {P : Json → Prop} (hP : Hereditary P) {model : TypeModel τ ι} {root : τ}
    {node : Node} (hliterals : ∀ value, model.LiteralBelow root value → P value)
    (htags : ∀ tag text, model.Documented root tag text → Constraint.TakesValue tag →
      P (Tag.value text))
    (h : (model.compile root).outcome = .ok node) : P (.obj node) := by
  rw [outcome_compile] at h
  refine compileUnder_induction (P := fun node ↦ P (.obj node)) (property_of_built hP hliterals)
    ?_ .refl h
  intro base node symbol tags gate hsymbol hsymbolTags hgate hnode hbase
  refine Constraint.applied_induction (P := fun node ↦ P (.obj node)) hgate ?_ hbase hnode
  intro key value current hadmits hcurrent
  refine hP.set hcurrent (Constraint.property_of_admits hP (fun tag text hmem hvalue ↦ ?_) hadmits)
  have hkeys : (Dict.keys tags).Nodup := Symbol.nodup_keys_tagTextsOf hsymbolTags
  exact htags tag text ⟨symbol, tags, hsymbol, hsymbolTags, Dict.get?_eq_some_of_mem hkeys hmem⟩
    hvalue

/-- A compiled schema has no number that is infinite or undefined, as long as the literals below the
type are finite and the tags that are taken as values have their numerals in range. -/
theorem isFinite_compile {model : TypeModel τ ι} {root : τ} {node : Node}
    (hliterals : ∀ value, model.LiteralBelow root value → value.IsFinite)
    (htags : ∀ tag text, model.Documented root tag text → Constraint.TakesValue tag →
      Tag.InRange text)
    (h : (model.compile root).outcome = .ok node) : IsFinite (.obj node) := by
  apply property_of_compile Json.hereditary_isFinite hliterals _ h
  intro tag text hdocumented hvalue
  exact Tag.isFinite_value (htags tag text hdocumented hvalue)

/-- A compiled schema has distinct keys in all its objects, as long as the literals have. -/
theorem hasDistinctKeys_compile {model : TypeModel τ ι} {root : τ} {node : Node}
    (hliterals : ∀ value, model.LiteralBelow root value → value.HasDistinctKeys)
    (h : (model.compile root).outcome = .ok node) : (Json.obj node).HasDistinctKeys := by
  apply property_of_compile Json.hereditary_hasDistinctKeys hliterals _ h
  intro tag text _ _
  exact Tag.hasDistinctKeys_value text

end TypeModel

end Schematic
