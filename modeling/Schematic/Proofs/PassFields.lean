import Schematic.Proofs.Pass

/-!
# The fields of a pass

A pass that does not fail lays a list of fields over the node, and no key is in the list twice. Each
tag gives one key a value, if its text is of use where the tag stands, and each key but that of the
description gets its value from one tag. So what a pass does under a key depends on the text of a
single tag, and all that is said of passes as a whole is said of these fields.
-/

namespace Schematic.Constraint

/-- The type of the node, if it has one, is a text. -/
def HasTextType (node : Node) : Prop :=
  ∀ type ∈ Dict.get? "type" node, ∃ name, type = .str name

/-- A node whose type is a text has a kind. -/
theorem HasTextType.exists_gate {node : Node} (h : HasTextType node) :
    ∃ gate, Constraint.gate (Dict.get? "type" node) = .ok gate := by
  cases htype : Dict.get? "type" node with
  | none => exact ⟨.other, rfl⟩
  | some type =>
    obtain ⟨name, rfl⟩ := h type htype
    unfold gate
    split <;> first | exact ⟨_, rfl⟩ | simp_all

/-! ## The key and the value of a tag -/

def keyOf (tag : String) : String :=
  if tag = integerTag then "type" else if tag ∈ recognizedTags then tag else extensionKey tag

/-- The integer at the front of a text, as a value. -/
def countValue? (text : String) : Option Json :=
  match Tag.count? text with
  | .ok (some n) => some (.int n)
  | _ => none

/-- The value that a tag gives its key on a node of the given gate. -/
def reading? (gate : Gate) (tag text : String) : Option Json :=
  if tag ∈ numericTags then if gate = .numeric then Tag.number? text else none
  else if tag = integerTag then if gate = .numeric then some (.str "integer") else none
  else if tag ∈ lengthTags then if gate = .string then countValue? text else none
  else if tag ∈ formTags then if gate = .string then some (.str text) else none
  else if tag ∈ countTags then if gate = .array then countValue? text else none
  else some (Tag.value text)

/-- What a tag of each kind gives its key, and where. -/
inductive Reads : Gate → String → String → Json → Prop where
  | range {tag text : String} {value : Json} (htag : tag ∈ numericTags)
      (hvalue : Tag.number? text = some value) : Reads .numeric tag text value
  | integer (text : String) : Reads .numeric integerTag text (.str "integer")
  | length {tag text : String} {n : Int} (htag : tag ∈ lengthTags)
      (hvalue : Tag.count? text = .ok (some n)) : Reads .string tag text (.int n)
  | form {tag : String} (htag : tag ∈ formTags) (text : String) : Reads .string tag text (.str text)
  | count {tag text : String} {n : Int} (htag : tag ∈ countTags)
      (hvalue : Tag.count? text = .ok (some n)) : Reads .array tag text (.int n)
  | default (gate : Gate) (text : String) : Reads gate defaultTag text (Tag.value text)
  | extension (gate : Gate) {tag : String} (htag : tag ∉ recognizedTags) (text : String) :
      Reads gate tag text (Tag.value text)

theorem countValue?_eq_some_iff {text : String} {value : Json} :
    countValue? text = some value ↔ ∃ n, Tag.count? text = .ok (some n) ∧ value = .int n := by
  unfold countValue?
  split
  · rename_i n hcount
    simp [hcount, eq_comm]
  · rename_i hcount
    simp only [reduceCtorEq, false_iff, not_exists, not_and]
    exact fun n hn _ ↦ hcount n hn

/-- A tag of a range gives a number on numeric nodes. -/
theorem reading?_range {tag : String} (htag : tag ∈ numericTags) (gate : Gate) (text : String) :
    reading? gate tag text = if gate = .numeric then Tag.number? text else none :=
  if_pos htag

/-- A tag of a length gives an integer on strings. -/
theorem reading?_length {tag : String} (htag : tag ∈ lengthTags) (gate : Gate) (text : String) :
    reading? gate tag text = if gate = .string then countValue? text else none := by
  have hother : ∀ tag ∈ lengthTags, tag ∉ numericTags ∧ tag ≠ integerTag := by decide
  rw [reading?, if_neg (hother tag htag).1, if_neg (hother tag htag).2, if_pos htag]

/-- A tag of a form gives its text on strings. -/
theorem reading?_form {tag : String} (htag : tag ∈ formTags) (gate : Gate) (text : String) :
    reading? gate tag text = if gate = .string then some (.str text) else none := by
  have hother : ∀ tag ∈ formTags, tag ∉ numericTags ∧ tag ≠ integerTag ∧ tag ∉ lengthTags := by
    decide
  obtain ⟨hrange, hinteger, hlength⟩ := hother tag htag
  rw [reading?, if_neg hrange, if_neg hinteger, if_neg hlength, if_pos htag]

/-- A tag of a count gives an integer on arrays. -/
theorem reading?_count {tag : String} (htag : tag ∈ countTags) (gate : Gate) (text : String) :
    reading? gate tag text = if gate = .array then countValue? text else none := by
  have hother : ∀ tag ∈ countTags,
      tag ∉ numericTags ∧ tag ≠ integerTag ∧ tag ∉ lengthTags ∧ tag ∉ formTags := by decide
  obtain ⟨hrange, hinteger, hlength, hform⟩ := hother tag htag
  rw [reading?, if_neg hrange, if_neg hinteger, if_neg hlength, if_neg hform, if_pos htag]

/-- Any other tag gives the value of its text everywhere. -/
theorem reading?_extension {tag : String} (htag : tag ∉ recognizedTags) (gate : Gate)
    (text : String) : reading? gate tag text = some (Tag.value text) := by
  simp only [recognizedTags, List.mem_append, List.mem_singleton, not_or] at htag
  obtain ⟨⟨⟨⟨⟨hrange, hinteger⟩, hlength⟩, hform⟩, hcount⟩, -⟩ := htag
  rw [reading?, if_neg hrange, if_neg hinteger, if_neg hlength, if_neg hform, if_neg hcount]

theorem reads_iff {gate : Gate} {tag text : String} {value : Json} :
    Reads gate tag text value ↔ reading? gate tag text = some value := by
  constructor
  · intro h
    cases h with
    | range htag hvalue => rw [reading?_range htag, if_pos rfl, hvalue]
    | integer => rfl
    | length htag hvalue =>
      rw [reading?_length htag, if_pos rfl, countValue?_eq_some_iff]
      exact ⟨_, hvalue, rfl⟩
    | form htag => rw [reading?_form htag, if_pos rfl]
    | count htag hvalue =>
      rw [reading?_count htag, if_pos rfl, countValue?_eq_some_iff]
      exact ⟨_, hvalue, rfl⟩
    | default => rfl
    | extension gate htag => exact reading?_extension htag gate text
  · intro h
    unfold reading? at h
    split at h
    · rename_i htag
      obtain ⟨rfl, hvalue⟩ := Option.ite_none_right_eq_some.mp h
      exact .range htag hvalue
    split at h
    · rename_i htag
      obtain ⟨rfl, hvalue⟩ := Option.ite_none_right_eq_some.mp h
      cases hvalue
      exact htag ▸ .integer text
    split at h
    · rename_i htag
      obtain ⟨rfl, hvalue⟩ := Option.ite_none_right_eq_some.mp h
      obtain ⟨n, hcount, rfl⟩ := countValue?_eq_some_iff.mp hvalue
      exact .length htag hcount
    split at h
    · rename_i htag
      obtain ⟨rfl, hvalue⟩ := Option.ite_none_right_eq_some.mp h
      cases hvalue
      exact .form htag text
    split at h
    · rename_i htag
      obtain ⟨rfl, hvalue⟩ := Option.ite_none_right_eq_some.mp h
      obtain ⟨n, hcount, rfl⟩ := countValue?_eq_some_iff.mp hvalue
      exact .count htag hcount
    · rename_i hrange hinteger hlength hform hcount
      cases h
      by_cases hdefault : tag = defaultTag
      · exact hdefault ▸ .default gate text
      · refine .extension gate ?_ text
        simp [recognizedTags, hrange, hinteger, hlength, hform, hcount, hdefault]

/-- The tags whose keys have their own names. -/
def keywordTags : List String :=
  numericTags ++ lengthTags ++ formTags ++ countTags ++ [defaultTag]

theorem keyOf_keyword {tag : String} (htag : tag ∈ keywordTags) : keyOf tag = tag := by
  have hrecognized : ∀ tag ∈ keywordTags, tag ≠ integerTag ∧ tag ∈ recognizedTags := by decide
  rw [keyOf, if_neg (hrecognized tag htag).1, if_pos (hrecognized tag htag).2]

theorem keyOf_extension {tag : String} (htag : tag ∉ recognizedTags) :
    keyOf tag = extensionKey tag := by
  have hinteger : tag ≠ integerTag := fun heq ↦ htag (heq ▸ by decide)
  rw [keyOf, if_neg hinteger, if_neg htag]

theorem extensionKey_injective : Function.Injective extensionKey := by
  intro tag other h
  have hlist := congrArg String.toList h
  rw [toList_extensionKey, toList_extensionKey] at hlist
  exact String.toList_injective (List.cons_injective (List.cons_injective hlist))

/-- The keys of a pass that are not extensions, in the order in which a pass sets them. -/
def plainKeys : List String :=
  ["description"] ++ numericTags ++ ["type"] ++ lengthTags ++ formTags ++ countTags ++ [defaultTag]

theorem extensionKey_notMem_plainKeys (tag : String) : extensionKey tag ∉ plainKeys := by
  intro hmem
  have hhead : ∀ key ∈ plainKeys, key.toList.head? ≠ some 'x' := by decide
  exact hhead _ hmem (by rw [toList_extensionKey]; rfl)

theorem keyOf_mem_plainKeys {tag : String} (htag : tag ∈ recognizedTags) :
    keyOf tag ∈ plainKeys ∧ keyOf tag ≠ "description" :=
  (by decide : ∀ tag ∈ recognizedTags, keyOf tag ∈ plainKeys ∧ keyOf tag ≠ "description") tag htag

theorem keyOf_ne_description (tag : String) : keyOf tag ≠ "description" := by
  by_cases htag : tag ∈ recognizedTags
  · exact (keyOf_mem_plainKeys htag).2
  · intro heq
    rw [keyOf_extension htag] at heq
    exact extensionKey_notMem_plainKeys tag (heq ▸ by decide)

/-- Different tags give values to different keys. -/
theorem keyOf_injective : Function.Injective keyOf := by
  have hrecognized : ∀ tag ∈ recognizedTags, ∀ other ∈ recognizedTags,
      keyOf tag = keyOf other → tag = other := by decide
  intro tag other h
  by_cases htag : tag ∈ recognizedTags <;> by_cases hother : other ∈ recognizedTags
  · exact hrecognized tag htag other hother h
  · rw [keyOf_extension hother] at h
    exact absurd (h ▸ (keyOf_mem_plainKeys htag).1) (extensionKey_notMem_plainKeys other)
  · rw [keyOf_extension htag] at h
    exact absurd (h ▸ (keyOf_mem_plainKeys hother).1) (extensionKey_notMem_plainKeys tag)
  · rw [keyOf_extension htag, keyOf_extension hother] at h
    exact extensionKey_injective h

/-! ## The edits that set a field -/

def Edit.field? : Edit → Option (String × Json)
  | .set key value => some (key, value)
  | _ => none

def settings (edits : List Edit) : List (String × Json) :=
  edits.filterMap Edit.field?

theorem settings_append (first second : List Edit) :
    settings (first ++ second) = settings first ++ settings second :=
  List.filterMap_append

theorem mem_settings {edits : List Edit} {key : String} {value : Json} :
    (key, value) ∈ settings edits ↔ .set key value ∈ edits := by
  unfold settings
  rw [List.mem_filterMap]
  constructor
  · rintro ⟨edit, hedit, hfield⟩
    cases edit with
    | set key' value' =>
      cases hfield
      exact hedit
    | dropped tag text => cases hfield
    | failed failure => cases hfield
  · exact fun h ↦ ⟨_, h, rfl⟩

/-- Edits of which none fails lay their fields over the node. -/
theorem run_of_notMem {edits : List Edit} (h : ∀ failure, .failed failure ∉ edits) (node : Node) :
    (run node edits).failure? = none ∧ (run node edits).node = Dict.update node (settings edits) := by
  induction edits generalizing node with
  | nil => exact ⟨rfl, rfl⟩
  | cons edit rest ih =>
    have hrest := ih fun failure hmem ↦ h failure (List.mem_cons_of_mem edit hmem)
    cases edit with
    | set key value => exact hrest (Dict.set key value node)
    | dropped tag text => exact hrest node
    | failed failure => exact absurd List.mem_cons_self (h failure)

/-- The value of a description that is not empty. -/
def described? (description : Option String) : Option Json :=
  (description.filter (· ≠ "")).map .str

/-- The fields that a pass sets on a node of the given gate, in order. -/
def fields (gate : Gate) (tags : Dict String) (description : Option String) :
    List (String × Json) :=
  settings (describe description ++ (gated tags gate ++ default? tags ++ extensions tags))

/-- A pass describes, then sets keywords, the default and the extensions. -/
theorem edits_eq [Room] {type : Option Json} {gate : Gate} (hgate : Constraint.gate type = .ok gate)
    (tags : Dict String) (description : Option String) :
    edits type tags description =
      describe description ++ (gated tags gate ++ default? tags ++ extensions tags) := by
  rw [edits, hgate]

theorem settings_describe (description : Option String) :
    settings (describe description) =
      ((described? description).map fun value ↦ ("description", value)).toList := by
  cases description with
  | none => rfl
  | some text =>
    by_cases htext : text = ""
    · subst htext
      rfl
    · simp [describe, described?, settings, Edit.field?, Option.filter, htext]

/-- A keyword is set to what its tag gives. -/
theorem exists_reads_of_gated {tags : Dict String} {gate : Gate} {key : String} {value : Json}
    (h : .set key value ∈ gated tags gate) :
    ∃ tag text, key = keyOf tag ∧ Dict.get? tag tags = some text ∧ Reads gate tag text value := by
  have hkeyword {tag : String} (htag : tag ∈ keywordTags) : tag = keyOf tag :=
    (keyOf_keyword htag).symm
  refine set_mem_gated (motive := fun gate key value ↦ ∃ tag text, key = keyOf tag ∧
    Dict.get? tag tags = some text ∧ Reads gate tag text value) ?_ ?_ ?_ ?_ ?_ h
  · intro tag text value htag htext hvalue
    exact ⟨tag, text, hkeyword (by simp [keywordTags, htag]), htext, .range htag hvalue⟩
  · intro htag
    obtain ⟨text, htext⟩ := Option.isSome_iff_exists.mp htag
    exact ⟨integerTag, text, rfl, htext, .integer text⟩
  · intro tag text n htag htext hcount
    exact ⟨tag, text, hkeyword (by simp [keywordTags, htag]), htext, .length htag hcount⟩
  · intro tag text htag htext
    exact ⟨tag, text, hkeyword (by simp [keywordTags, htag]), htext, .form htag text⟩
  · intro tag text n htag htext hcount
    exact ⟨tag, text, hkeyword (by simp [keywordTags, htag]), htext, .count htag hcount⟩

theorem set_mem_of_reads {tags : Dict String} {gate : Gate} {tag text : String} {value : Json}
    (htext : Dict.get? tag tags = some text) (h : Reads gate tag text value) :
    .set (keyOf tag) value ∈ gated tags gate ++ default? tags ++ extensions tags := by
  simp only [List.mem_append]
  cases h with
  | range htag hvalue =>
    rw [keyOf_keyword (by simp [keywordTags, htag])]
    refine .inl (.inl (List.mem_append_left _ (List.mem_flatMap.mpr ⟨tag, htag, ?_⟩)))
    simp [numeric, htext, hvalue]
  | integer =>
    refine .inl (.inl (List.mem_append_right _ ?_))
    rw [toInteger, Dict.contains, htext]
    exact List.mem_singleton_self _
  | length htag hvalue =>
    rw [keyOf_keyword (by simp [keywordTags, htag])]
    refine .inl (.inl (List.mem_append_left _ (List.mem_flatMap.mpr ⟨tag, htag, ?_⟩)))
    simp [count, htext, hvalue]
  | form htag =>
    rw [keyOf_keyword (by simp [keywordTags, htag])]
    refine .inl (.inl (List.mem_append_right _ (List.mem_flatMap.mpr ⟨tag, htag, ?_⟩)))
    simp [verbatim, htext]
  | count htag hvalue =>
    rw [keyOf_keyword (by simp [keywordTags, htag])]
    refine .inl (.inl (List.mem_flatMap.mpr ⟨tag, htag, ?_⟩))
    simp [count, htext, hvalue]
  | default =>
    refine .inl (.inr ?_)
    rw [default?, htext]
    exact List.mem_singleton_self _
  | extension gate htag =>
    rw [keyOf_extension htag]
    refine .inr (List.mem_map.mpr ⟨(tag, text), List.mem_filter.mpr ⟨?_, by simpa using htag⟩, rfl⟩)
    exact Dict.mem_of_get?_eq_some htext

/-- The edits of the tags set for each tag the value that it gives its key. -/
theorem set_mem_tagEdits_iff {tags : Dict String} (hkeys : (Dict.keys tags).Nodup) {gate : Gate}
    {key : String} {value : Json} :
    .set key value ∈ gated tags gate ++ default? tags ++ extensions tags ↔
      ∃ tag text, key = keyOf tag ∧ Dict.get? tag tags = some text ∧ Reads gate tag text value := by
  constructor
  · intro h
    simp only [List.mem_append] at h
    rcases h with (hgated | hdefault) | hextension
    · exact exists_reads_of_gated hgated
    · unfold default? at hdefault
      split at hdefault
      · simp at hdefault
      · rename_i text htext
        simp only [valued_unlimited, List.mem_singleton, Edit.set.injEq] at hdefault
        obtain ⟨rfl, rfl⟩ := hdefault
        exact ⟨defaultTag, text, rfl, htext, .default gate text⟩
    · simp only [extensions, valued_unlimited, List.mem_map, List.mem_filter, Edit.set.injEq]
        at hextension
      obtain ⟨⟨tag, text⟩, ⟨hmem, hother⟩, rfl, rfl⟩ := hextension
      have htag : tag ∉ recognizedTags := by simpa using hother
      exact ⟨tag, text, (keyOf_extension htag).symm, Dict.get?_eq_some_of_mem hkeys hmem,
        .extension gate htag text⟩
  · rintro ⟨tag, text, rfl, htext, hreads⟩
    exact set_mem_of_reads htext hreads

/-! ## The order of the keys -/

/-- The order in which a pass sets keys: extensions come last, in the order of the tags. -/
def keyOrder (tags : Dict String) : List String :=
  plainKeys ++ ((Dict.keys tags).filter (· ∉ recognizedTags)).map extensionKey

theorem nodup_keyOrder {tags : Dict String} (hkeys : (Dict.keys tags).Nodup) :
    (keyOrder tags).Nodup := by
  refine List.nodup_append.mpr ⟨by decide, (hkeys.filter _).map extensionKey_injective, ?_⟩
  intro key hplain other hextension heq
  obtain ⟨tag, -, rfl⟩ := List.mem_map.mp hextension
  exact extensionKey_notMem_plainKeys tag (heq ▸ hplain)

theorem keys_settings_append (first second : List Edit) :
    Dict.keys (settings (first ++ second)) =
      Dict.keys (settings first) ++ Dict.keys (settings second) := by
  rw [settings_append, Dict.keys, List.map_append]
  rfl

/-- Tags that set no more than the key of their own name set keys in their own order. -/
theorem sublist_keys_flatMap {names : List String} {edits : String → List Edit}
    (h : ∀ tag, (Dict.keys (settings (edits tag))).Sublist [tag]) :
    (Dict.keys (settings (names.flatMap edits))).Sublist names := by
  induction names with
  | nil => exact List.Sublist.refl []
  | cons tag names ih =>
    rw [List.flatMap_cons, keys_settings_append]
    exact (h tag).append ih

theorem sublist_keys_numeric (tags : Dict String) (tag : String) :
    (Dict.keys (settings (numeric tags tag))).Sublist [tag] := by
  unfold numeric
  split
  · exact List.nil_sublist _
  · split
    · exact List.Sublist.refl _
    · exact List.nil_sublist _

theorem sublist_keys_count (tags : Dict String) (tag : String) :
    (Dict.keys (settings (count tags tag))).Sublist [tag] := by
  unfold count
  split
  · exact List.nil_sublist _
  · split
    · exact List.Sublist.refl _
    · exact List.nil_sublist _
    · exact List.nil_sublist _

theorem sublist_keys_verbatim (tags : Dict String) (tag : String) :
    (Dict.keys (settings (verbatim tags tag))).Sublist [tag] := by
  unfold verbatim
  split
  · exact List.nil_sublist _
  · exact List.Sublist.refl _

theorem sublist_keys_gated (tags : Dict String) (gate : Gate) :
    (Dict.keys (settings (gated tags gate))).Sublist
      (numericTags ++ ["type"] ++ lengthTags ++ formTags ++ countTags) := by
  cases gate with
  | numeric =>
    have htype : (Dict.keys (settings (toInteger tags))).Sublist ["type"] := by
      unfold toInteger
      split
      · exact List.Sublist.refl _
      · exact List.nil_sublist _
    rw [gated, keys_settings_append]
    refine ((sublist_keys_flatMap (sublist_keys_numeric tags)).append htype).trans ?_
    decide
  | string =>
    rw [gated, keys_settings_append]
    refine ((sublist_keys_flatMap (sublist_keys_count tags)).append
      (sublist_keys_flatMap (sublist_keys_verbatim tags))).trans ?_
    decide
  | array => exact (sublist_keys_flatMap (sublist_keys_count tags)).trans (by decide)
  | other => exact List.nil_sublist _

/-- A pass sets keys in their order, and none of them twice. -/
theorem sublist_keys_fields (gate : Gate) (tags : Dict String) (description : Option String) :
    (Dict.keys (fields gate tags description)).Sublist (keyOrder tags) := by
  have hdescribe : (Dict.keys (settings (describe description))).Sublist ["description"] := by
    rw [settings_describe]
    cases described? description with
    | none => exact List.nil_sublist _
    | some value => exact List.Sublist.refl _
  have hdefault : (Dict.keys (settings (default? tags))).Sublist [defaultTag] := by
    unfold default?
    split
    · exact List.nil_sublist _
    · exact List.Sublist.refl _
  have hextensions : Dict.keys (settings (extensions tags)) =
      ((Dict.keys tags).filter (· ∉ recognizedTags)).map extensionKey := by
    simp [settings, extensions, Dict.keys, List.filterMap_map, List.filter_map, Function.comp_def,
      Edit.field?]
  rw [fields, keys_settings_append, keys_settings_append, keys_settings_append, hextensions,
    keyOrder]
  have hplain := (hdescribe.append ((sublist_keys_gated tags gate).append hdefault)).trans
    (by decide : List.Sublist _ plainKeys)
  rw [← List.append_assoc]
  exact hplain.append (List.Sublist.refl _)

theorem nodup_keys_fields (gate : Gate) {tags : Dict String} (hkeys : (Dict.keys tags).Nodup)
    (description : Option String) : (Dict.keys (fields gate tags description)).Nodup :=
  (sublist_keys_fields gate tags description).nodup (nodup_keyOrder hkeys)

/-! ## Looking up a field -/

/-- A key gets the description or the value of its tag. -/
theorem get?_fields_eq_some_iff (gate : Gate) {tags : Dict String} (hkeys : (Dict.keys tags).Nodup)
    (description : Option String) {key : String} {value : Json} :
    Dict.get? key (fields gate tags description) = some value ↔
      (key = "description" ∧ described? description = some value) ∨
        ∃ tag text, key = keyOf tag ∧ Dict.get? tag tags = some text ∧
          Reads gate tag text value := by
  rw [Dict.get?_eq_some_iff_mem (nodup_keys_fields gate hkeys description), fields, settings_append,
    List.mem_append, settings_describe, mem_settings, set_mem_tagEdits_iff hkeys]
  cases described? description <;> simp [eq_comm]

/-- The value that a pass gives the key of a tag is read off the text of that tag. -/
theorem get?_fields_keyOf (gate : Gate) {tags : Dict String} (hkeys : (Dict.keys tags).Nodup)
    (description : Option String) (tag : String) :
    Dict.get? (keyOf tag) (fields gate tags description) =
      (Dict.get? tag tags).bind (reading? gate tag) := by
  ext value
  rw [get?_fields_eq_some_iff gate hkeys, Option.bind_eq_some_iff]
  constructor
  · rintro (⟨hkey, -⟩ | ⟨other, text, hkey, htext, hreads⟩)
    · exact absurd hkey (keyOf_ne_description tag)
    · obtain rfl := keyOf_injective hkey
      exact ⟨text, htext, reads_iff.mp hreads⟩
  · rintro ⟨text, htext, hvalue⟩
    exact .inr ⟨tag, text, rfl, htext, reads_iff.mpr hvalue⟩

/-- The description is that of the symbol, unless it is empty. -/
theorem get?_fields_description (gate : Gate) {tags : Dict String}
    (hkeys : (Dict.keys tags).Nodup) (description : Option String) :
    Dict.get? "description" (fields gate tags description) = described? description := by
  ext value
  rw [get?_fields_eq_some_iff gate hkeys]
  constructor
  · rintro (⟨-, hvalue⟩ | ⟨tag, text, hkey, -⟩)
    · exact hvalue
    · exact absurd hkey.symm (keyOf_ne_description tag)
  · exact fun hvalue ↦ .inl ⟨rfl, hvalue⟩

/-- A pass gives a value to no other keys. -/
theorem get?_fields_eq_none (gate : Gate) {tags : Dict String} (hkeys : (Dict.keys tags).Nodup)
    (description : Option String) {key : String} (hdescription : key ≠ "description")
    (hkey : ∀ tag, key ≠ keyOf tag) : Dict.get? key (fields gate tags description) = none := by
  refine Option.eq_none_iff_forall_ne_some.mpr fun value hvalue ↦ ?_
  rcases (get?_fields_eq_some_iff gate hkeys description).mp hvalue with ⟨h, -⟩ | ⟨tag, -, h, -⟩
  · exact hdescription h
  · exact hkey tag h

/-! ## Passes that do not fail -/

/-- No text of the tags begins with an integer too long to convert. -/
def Convertible (tags : Dict String) : Prop :=
  ∀ entry ∈ tags, ∀ digits ∈ Tag.countDigits? entry.2.toList,
    digits.2.length ≤ Json.integerDigitLimit

instance (tags : Dict String) : Decidable (Convertible tags) :=
  inferInstanceAs (Decidable (∀ entry ∈ tags, ∀ digits ∈ Tag.countDigits? entry.2.toList,
    digits.2.length ≤ Json.integerDigitLimit))

/-- An integer fails to convert exactly if it is too long. -/
theorem count?_eq_error_iff {text : String} {failure : Failure} :
    Tag.count? text = .error failure ↔ failure = .overlongInteger ∧
      ∃ digits ∈ Tag.countDigits? text.toList, Json.integerDigitLimit < digits.2.length := by
  unfold Tag.count?
  split
  · rename_i hnone
    simp [hnone]
  · rename_i negative digits hdigits
    split
    · rename_i hlong
      simp [hdigits, hlong, eq_comm]
    · rename_i hshort
      simp [hdigits, hshort]

/-- Tags that can be converted do not fail. -/
theorem Convertible.count?_ne_error {tags : Dict String} (h : Convertible tags) {tag text : String}
    (htext : Dict.get? tag tags = some text) (failure : Failure) :
    Tag.count? text ≠ .error failure := by
  intro hfailure
  obtain ⟨-, digits, hdigits, hlong⟩ := count?_eq_error_iff.mp hfailure
  have hshort := h _ (Dict.mem_of_get?_eq_some htext) digits hdigits
  exact Nat.not_lt.mpr hshort hlong

/-- With no integer too long to convert, a pass lays its fields over the node. -/
theorem applied_eq_ok {node : Node} {gate : Gate}
    (hgate : Constraint.gate (Dict.get? "type" node) = .ok gate) {tags : Dict String}
    (htags : Convertible tags) (description : Option String) :
    (applied node tags description).outcome =
      .ok (Dict.update node (fields gate tags description)) := by
  have hfailed (failure : Failure) :
      .failed failure ∉ edits (Dict.get? "type" node) tags description := by
    intro hmem
    obtain ⟨tag, text, htext, hcount⟩ := failed_mem_edits hgate hmem
    exact htags.count?_ne_error htext failure hcount
  obtain ⟨hnone, hnode⟩ := run_of_notMem hfailed node
  rw [applied_eq_ok_iff]
  refine ⟨hnone, hnode.trans ?_⟩
  rw [edits_eq hgate, fields]

end Schematic.Constraint
