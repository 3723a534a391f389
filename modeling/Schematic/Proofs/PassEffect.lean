import Schematic.Proofs.PassFields

/-!
# The effect of a pass

What a pass writes is decided by the type that the node has before the pass, by the tags and by the
description. Every key that is written has the value that is read off its own tag; every other key
keeps its value. Keys that the node has keep their places, and new keys follow in the order of a pass.
-/

namespace Schematic.Constraint

def IsOf (name : String) (node : Node) : Prop :=
  Dict.get? "type" node = some (.str name)

/-- The fields that a pass writes, by the type that the node has before it. -/
inductive Writes (node : Node) (tags : Dict String) (description : Option String) :
    String → Json → Prop where
  | description {text : String} (htext : description = some text) (hne : text ≠ "") :
      Writes node tags description "description" (.str text)
  | range {tag text : String} {value : Json} (htype : IsOf "number" node ∨ IsOf "integer" node)
      (htag : tag ∈ ["minimum", "maximum", "multipleOf"]) (htext : Dict.get? tag tags = some text)
      (hvalue : Tag.number? text = some value) : Writes node tags description tag value
  | integer {text : String} (htype : IsOf "number" node ∨ IsOf "integer" node)
      (htext : Dict.get? "integer" tags = some text) :
      Writes node tags description "type" (.str "integer")
  | length {tag text : String} {n : Int} (htype : IsOf "string" node)
      (htag : tag ∈ ["minLength", "maxLength"]) (htext : Dict.get? tag tags = some text)
      (hvalue : Tag.count? text = .ok (some n)) : Writes node tags description tag (.int n)
  | form {tag text : String} (htype : IsOf "string" node) (htag : tag ∈ ["pattern", "format"])
      (htext : Dict.get? tag tags = some text) : Writes node tags description tag (.str text)
  | count {tag text : String} {n : Int} (htype : IsOf "array" node)
      (htag : tag ∈ ["minItems", "maxItems"]) (htext : Dict.get? tag tags = some text)
      (hvalue : Tag.count? text = .ok (some n)) : Writes node tags description tag (.int n)
  | default {text : String} (htext : Dict.get? "default" tags = some text) :
      Writes node tags description "default" (Tag.value text)
  | extension {tag text : String} (htag : tag ∉ recognizedTags)
      (htext : Dict.get? tag tags = some text) :
      Writes node tags description ("x-" ++ tag) (Tag.value text)

structure Effect (node : Node) (tags : Dict String) (description : Option String) (result : Node) :
    Prop where
  written : ∀ key value, Writes node tags description key value →
    Dict.get? key result = some value
  kept : ∀ key, (∀ value, ¬ Writes node tags description key value) →
    Dict.get? key result = Dict.get? key node
  order : Dict.keys result =
    Dict.keys node ++ (keyOrder tags).filter fun key ↦ key ∉ Dict.keys node ∧ key ∈ Dict.keys result

/-- A type tells the kind of the node. -/
theorem gate_of_isOf {name : String} {node : Node} {gate : Gate} (h : IsOf name node)
    (hgate : Constraint.gate (Dict.get? "type" node) = .ok gate) :
    Constraint.gate (some (.str name)) = .ok gate :=
  h ▸ hgate

/-- A number has the numeric keywords, as does an integer. -/
theorem gate_of_number {node : Node} {gate : Gate} (h : IsOf "number" node ∨ IsOf "integer" node)
    (hgate : Constraint.gate (Dict.get? "type" node) = .ok gate) : gate = .numeric := by
  rcases h with h | h <;> exact (Except.ok.inj (gate_of_isOf h hgate)).symm

/-- What a tag gives its key is what a pass writes. -/
theorem writes_of_reads {node : Node} {gate : Gate}
    (hgate : Constraint.gate (Dict.get? "type" node) = .ok gate) {tags : Dict String}
    {description : Option String} {tag text : String} {value : Json}
    (htext : Dict.get? tag tags = some text) (h : Reads gate tag text value) :
    Writes node tags description (keyOf tag) value := by
  cases h with
  | range htag hvalue =>
    rw [keyOf_keyword (by simp [keywordTags, htag])]
    exact .range (type_of_gate_numeric hgate) htag htext hvalue
  | integer => exact .integer (type_of_gate_numeric hgate) htext
  | length htag hvalue =>
    rw [keyOf_keyword (by simp [keywordTags, htag])]
    exact .length (type_of_gate_string hgate) htag htext hvalue
  | form htag =>
    rw [keyOf_keyword (by simp [keywordTags, htag])]
    exact .form (type_of_gate_string hgate) htag htext
  | count htag hvalue =>
    rw [keyOf_keyword (by simp [keywordTags, htag])]
    exact .count (type_of_gate_array hgate) htag htext hvalue
  | default => exact .default htext
  | extension gate htag =>
    rw [keyOf_extension htag]
    exact .extension htag htext

/-- What a pass writes are its fields. -/
theorem writes_iff {node : Node} {gate : Gate}
    (hgate : Constraint.gate (Dict.get? "type" node) = .ok gate) {tags : Dict String}
    (hkeys : (Dict.keys tags).Nodup) {description : Option String} {key : String} {value : Json} :
    Writes node tags description key value ↔
      Dict.get? key (fields gate tags description) = some value := by
  have hkeyword {tag : String} (htag : tag ∈ keywordTags) : tag = keyOf tag :=
    (keyOf_keyword htag).symm
  rw [get?_fields_eq_some_iff gate hkeys]
  constructor
  · intro h
    cases h with
    | description htext hne => exact .inl ⟨rfl, by simp [described?, Option.filter, htext, hne]⟩
    | @range _ text _ htype htag htext hvalue =>
      obtain rfl := gate_of_number htype hgate
      have htag : key ∈ numericTags := htag
      exact .inr ⟨key, text, hkeyword (by simp [keywordTags, htag]), htext, .range htag hvalue⟩
    | @integer text htype htext =>
      obtain rfl := gate_of_number htype hgate
      exact .inr ⟨integerTag, text, rfl, htext, .integer text⟩
    | @length _ text _ htype htag htext hvalue =>
      obtain rfl := Except.ok.inj (gate_of_isOf htype hgate)
      have htag : key ∈ lengthTags := htag
      exact .inr ⟨key, text, hkeyword (by simp [keywordTags, htag]), htext, .length htag hvalue⟩
    | @form _ text htype htag htext =>
      obtain rfl := Except.ok.inj (gate_of_isOf htype hgate)
      have htag : key ∈ formTags := htag
      exact .inr ⟨key, text, hkeyword (by simp [keywordTags, htag]), htext, .form htag text⟩
    | @count _ text _ htype htag htext hvalue =>
      obtain rfl := Except.ok.inj (gate_of_isOf htype hgate)
      have htag : key ∈ countTags := htag
      exact .inr ⟨key, text, hkeyword (by simp [keywordTags, htag]), htext, .count htag hvalue⟩
    | @default text htext => exact .inr ⟨defaultTag, text, rfl, htext, .default gate text⟩
    | @extension tag text htag htext =>
      exact .inr ⟨tag, text, (keyOf_extension htag).symm, htext, .extension gate htag text⟩
  · rintro (⟨rfl, hvalue⟩ | ⟨tag, text, rfl, htext, hreads⟩)
    · obtain ⟨text, htext, rfl⟩ := Option.map_eq_some_iff.mp hvalue
      obtain ⟨hgiven, hne⟩ := Option.filter_eq_some_iff.mp htext
      exact .description hgiven (by simpa using hne)
    · exact writes_of_reads hgate htext hreads

/-! ## The node after a pass -/

/-- Of a list without repetitions, the elements of a sublist are the sublist. -/
theorem filter_mem_of_sublist {keys order : List String} (h : keys.Sublist order)
    (horder : order.Nodup) : order.filter (· ∈ keys) = keys := by
  induction h with
  | slnil => rfl
  | cons key hsub ih =>
    obtain ⟨hfresh, hrest⟩ := List.nodup_cons.mp horder
    rw [List.filter_cons_of_neg (by simpa using fun hmem ↦ hfresh (hsub.subset hmem)), ih hrest]
  | cons_cons key _ ih =>
    obtain ⟨hfresh, hrest⟩ := List.nodup_cons.mp horder
    rw [List.filter_cons_of_pos (by simp)]
    congr 1
    refine (List.filter_congr fun other hother ↦ ?_).trans (ih hrest)
    have hne : other ≠ key := fun heq ↦ hfresh (heq ▸ hother)
    simp [hne]

/-- A node keeps its keys in their places, and the new keys of a pass follow in the order of a pass. -/
theorem keys_update_fields (node : Node) (gate : Gate) {tags : Dict String}
    (hkeys : (Dict.keys tags).Nodup) (description : Option String) :
    Dict.keys (Dict.update node (fields gate tags description)) =
      Dict.keys node ++ (keyOrder tags).filter fun key ↦ key ∉ Dict.keys node ∧
        key ∈ Dict.keys (Dict.update node (fields gate tags description)) := by
  have hnew : (keyOrder tags).filter (fun key ↦ key ∉ Dict.keys node ∧
      key ∈ Dict.keys (Dict.update node (fields gate tags description))) =
      (Dict.keys (fields gate tags description)).filter (· ∉ Dict.keys node) := by
    rw [← filter_mem_of_sublist (sublist_keys_fields gate tags description) (nodup_keyOrder hkeys),
      List.filter_filter]
    refine List.filter_congr fun key _ ↦ ?_
    have hupdate : key ∈ Dict.keys (Dict.update node (fields gate tags description)) ↔
        key ∈ Dict.keys node ∨ key ∈ Dict.keys (fields gate tags description) :=
      Dict.mem_keys_update
    by_cases hnode : key ∈ Dict.keys node <;> simp [hnode, hupdate]
  rw [hnew]
  exact Dict.keys_update_of_nodup (nodup_keys_fields gate hkeys description)

/-! ## The order of the tags -/

/-- The order of the tags does not matter for their conversion. -/
theorem Convertible.of_perm {tags tags' : Dict String} (hperm : tags'.Perm tags)
    (h : Convertible tags) : Convertible tags' :=
  fun entry hentry ↦ h entry (hperm.mem_iff.mp hentry)

/-- The order of the tags does not matter to what a pass gives a key. -/
theorem get?_fields_of_perm (gate : Gate) {tags tags' : Dict String} (hperm : tags'.Perm tags)
    (hkeys : (Dict.keys tags).Nodup) (description : Option String) (key : String) :
    Dict.get? key (fields gate tags' description) = Dict.get? key (fields gate tags description) := by
  have hkeys' : (Dict.keys tags').Nodup := (hperm.map Prod.fst).nodup_iff.mpr hkeys
  ext value
  rw [get?_fields_eq_some_iff gate hkeys, get?_fields_eq_some_iff gate hkeys']
  simp only [Dict.get?_of_perm hperm hkeys]

/-- A pass over a node has its effect, whatever the order of the tags is: a pass with the same tags in
another order gives the same value to every key. -/
theorem applied_effect {node : Node} (hnode : HasTextType node) {tags : Dict String}
    (hkeys : (Dict.keys tags).Nodup) (htags : Convertible tags) (description : Option String) :
    ∃ result, (applied node tags description).outcome = .ok result ∧
      Effect node tags description result ∧
      ∀ tags' : Dict String, tags'.Perm tags → ∃ result',
        (applied node tags' description).outcome = .ok result' ∧
          ∀ key, Dict.get? key result' = Dict.get? key result := by
  obtain ⟨gate, hgate⟩ := hnode.exists_gate
  have hlookup {tags : Dict String} (hkeys : (Dict.keys tags).Nodup) (key : String) :
      Dict.get? key (Dict.update node (fields gate tags description)) =
        (Dict.get? key (fields gate tags description)).or (Dict.get? key node) :=
    Dict.get?_update_of_nodup (nodup_keys_fields gate hkeys description)
  refine ⟨_, applied_eq_ok hgate htags description, ⟨fun key value h ↦ ?_, fun key h ↦ ?_, ?_⟩,
    fun tags' hperm ↦ ⟨_, applied_eq_ok hgate (htags.of_perm hperm) description, fun key ↦ ?_⟩⟩
  · rw [hlookup hkeys, (writes_iff hgate hkeys).mp h, Option.some_or]
  · have hnone : Dict.get? key (fields gate tags description) = none :=
      Option.eq_none_iff_forall_ne_some.mpr fun value hvalue ↦
        h value ((writes_iff hgate hkeys).mpr hvalue)
    rw [hlookup hkeys, hnone, Option.none_or]
  · exact keys_update_fields node gate hkeys description
  · have hkeys' : (Dict.keys tags').Nodup := (hperm.map Prod.fst).nodup_iff.mpr hkeys
    rw [hlookup hkeys, hlookup hkeys', get?_fields_of_perm gate hperm hkeys]

theorem hasTextType_number : HasTextType [("type", .str "number")] :=
  fun type htype ↦ ⟨"number", by simpa [Dict.get?, eq_comm] using htype⟩

def portTags : Dict String :=
  [("integer", ""), ("minimum", "1"), ("type", "true"), ("minLength", "2")]

def port : Node :=
  [("type", .str "integer"), ("description", .str "A port."), ("minimum", .int 1),
    ("x-type", .bool true)]

/-- A number with a range turns into an integer, and an extension spells the name of a keyword. A length
has no effect on a number. -/
theorem applied_effect_number :
    (applied [("type", .str "number")] portTags (some "A port.")).outcome = .ok port ∧
    Effect [("type", .str "number")] portTags (some "A port.") port ∧
    ∃ result, (applied [("type", .str "number")] portTags.reverse (some "A port.")).outcome = .ok result ∧
      ∀ key, Dict.get? key result = Dict.get? key port := by
  have hport : (applied [("type", .str "number")] portTags (some "A port.")).outcome = .ok port := rfl
  obtain ⟨result, hresult, heffect, horder⟩ :=
    applied_effect hasTextType_number (show (Dict.keys portTags).Nodup by decide) (by decide)
      (some "A port.")
  obtain rfl : port = result := Except.ok.inj (hport.symm.trans hresult)
  exact ⟨hport, heffect, horder _ (List.reverse_perm _)⟩

end Schematic.Constraint
