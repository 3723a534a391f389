import Schematic.Proofs.Tagging
import Schematic.Schema.Constraint

/-!
# What a pass can do

A pass sets only fields that the tags and the gate of the node's type admit, so
whatever each admitted field preserves, the pass preserves. In particular it leaves the
fields that carry the structure of a schema alone. A pass fails only at a type that
cannot be looked up or at a count that cannot be converted.
-/

namespace Schematic.Constraint

/-- Numbers and integers have keywords for their range. -/
theorem type_of_gate_numeric {type : Option Json} (h : gate type = .ok .numeric) :
    type = some (.str "number") ∨ type = some (.str "integer") := by
  unfold gate at h
  split at h <;> simp_all

theorem type_of_gate_string {type : Option Json} (h : gate type = .ok .string) :
    type = some (.str "string") := by
  unfold gate at h
  split at h <;> simp_all

theorem type_of_gate_array {type : Option Json} (h : gate type = .ok .array) :
    type = some (.str "array") := by
  unfold gate at h
  split at h <;> simp_all

/-- The fields that a pass with the given tags may set on a node of the given gate. -/
inductive Admits (tags : Dict String) : Gate → String → Json → Prop where
  | description (gate : Gate) (text : String) : Admits tags gate "description" (.str text)
  | range {tag text : String} {value : Json} (htag : tag ∈ numericTags)
      (htext : Dict.get? tag tags = some text) (hvalue : Tag.number? text = some value) :
      Admits tags .numeric tag value
  | integer (htag : Dict.contains integerTag tags = true) :
      Admits tags .numeric "type" (.str "integer")
  | length {tag text : String} {n : Int} (htag : tag ∈ lengthTags)
      (htext : Dict.get? tag tags = some text) (hvalue : Tag.count? text = .ok (some n)) :
      Admits tags .string tag (.int n)
  | form {tag text : String} (htag : tag ∈ formTags) (htext : Dict.get? tag tags = some text) :
      Admits tags .string tag (.str text)
  | count {tag text : String} {n : Int} (htag : tag ∈ countTags)
      (htext : Dict.get? tag tags = some text) (hvalue : Tag.count? text = .ok (some n)) :
      Admits tags .array tag (.int n)
  | default (gate : Gate) {text : String} (htext : Dict.get? defaultTag tags = some text) :
      Admits tags gate defaultTag (Tag.value text)
  | extension (gate : Gate) {tag text : String} (hmem : (tag, text) ∈ tags)
      (htag : tag ∉ recognizedTags) : Admits tags gate (extensionKey tag) (Tag.value text)

/-! ## Running edits -/

/-- Whatever each edit of a list preserves, running the list preserves. -/
theorem run_induction {P : Node → Prop} {edits : List Edit}
    (hset : ∀ key value node, .set key value ∈ edits → P node → P (Dict.set key value node))
    {node : Node} (h : P node) : P (run node edits).node := by
  induction edits generalizing node with
  | nil => exact h
  | cons edit rest ih =>
    have hrest := fun key value node hmem ↦ hset key value node (List.mem_cons_of_mem edit hmem)
    cases edit with
    | set key value => exact ih hrest (hset key value node List.mem_cons_self h)
    | dropped tag text => exact ih hrest h
    | failed failure => exact h

/-- A run fails with one of its failures. -/
theorem failed_mem_of_run {edits : List Edit} {node : Node} {failure : Failure}
    (h : (run node edits).failure? = some failure) : .failed failure ∈ edits := by
  induction edits generalizing node with
  | nil => simp [run] at h
  | cons edit rest ih =>
    cases edit with
    | set key value => exact List.mem_cons_of_mem _ (ih h)
    | dropped tag text => exact List.mem_cons_of_mem _ (ih h)
    | failed failure' =>
      obtain rfl : failure' = failure := by simpa [run] using h
      exact List.mem_cons_self

/-! ## The edits of a pass -/

/-- Only the description is set from a description. -/
theorem set_mem_describe {description : Option String} {key : String} {value : Json}
    (h : .set key value ∈ describe description) :
    key = "description" ∧ ∃ text, value = .str text := by
  cases description with
  | none => simp [describe] at h
  | some text =>
    by_cases htext : text = ""
    · simp [describe, htext] at h
    · simp only [describe, if_neg htext, List.mem_singleton, Edit.set.injEq] at h
      exact ⟨h.1, text, h.2⟩

/-- A keyword of a range is set to the number of its tag. -/
theorem set_mem_numeric {tags : Dict String} {tag key : String} {value : Json}
    (h : .set key value ∈ numeric tags tag) :
    key = tag ∧ ∃ text, Dict.get? tag tags = some text ∧ Tag.number? text = some value := by
  unfold numeric at h
  split at h
  · simp at h
  · rename_i text htext
    split at h
    · rename_i number hnumber
      simp only [List.mem_singleton, Edit.set.injEq] at h
      exact ⟨h.1, text, htext, h.2 ▸ hnumber⟩
    · simp at h

/-- A keyword of a length is set to the integer of its tag. -/
theorem set_mem_count {tags : Dict String} {tag key : String} {value : Json}
    (h : .set key value ∈ count tags tag) :
    key = tag ∧ ∃ text n, Dict.get? tag tags = some text ∧ Tag.count? text = .ok (some n) ∧
      value = .int n := by
  unfold count at h
  split at h
  · simp at h
  · rename_i text htext
    split at h
    · rename_i n hn
      simp only [List.mem_singleton, Edit.set.injEq] at h
      exact ⟨h.1, text, n, htext, hn, h.2⟩
    · simp at h
    · simp at h

/-- Any other keyword is set to the text of its tag. -/
theorem set_mem_verbatim {tags : Dict String} {tag key : String} {value : Json}
    (h : .set key value ∈ verbatim tags tag) :
    key = tag ∧ ∃ text, Dict.get? tag tags = some text ∧ value = .str text := by
  unfold verbatim at h
  split at h
  · simp at h
  · rename_i text htext
    simp only [List.mem_singleton, Edit.set.injEq] at h
    exact ⟨h.1, text, htext, h.2⟩

/-- The ways in which the edits of a gate set a field. -/
theorem set_mem_gated {tags : Dict String} {motive : Gate → String → Json → Prop}
    (range : ∀ {tag text value}, tag ∈ numericTags → Dict.get? tag tags = some text →
      Tag.number? text = some value → motive .numeric tag value)
    (integer : Dict.contains integerTag tags = true → motive .numeric "type" (.str "integer"))
    (length : ∀ {tag text n}, tag ∈ lengthTags → Dict.get? tag tags = some text →
      Tag.count? text = .ok (some n) → motive .string tag (.int n))
    (form : ∀ {tag text}, tag ∈ formTags → Dict.get? tag tags = some text →
      motive .string tag (.str text))
    (count : ∀ {tag text n}, tag ∈ countTags → Dict.get? tag tags = some text →
      Tag.count? text = .ok (some n) → motive .array tag (.int n))
    {gate : Gate} {key : String} {value : Json} (h : .set key value ∈ gated tags gate) :
    motive gate key value := by
  cases gate with
  | numeric =>
    rcases List.mem_append.mp h with hrange | hinteger
    · obtain ⟨tag, htag, hset⟩ := List.mem_flatMap.mp hrange
      obtain ⟨rfl, text, htext, hvalue⟩ := set_mem_numeric hset
      exact range htag htext hvalue
    · unfold toInteger at hinteger
      split at hinteger
      · rename_i htag
        simp only [List.mem_singleton, Edit.set.injEq] at hinteger
        obtain ⟨rfl, rfl⟩ := hinteger
        exact integer htag
      · simp at hinteger
  | string =>
    rcases List.mem_append.mp h with hlength | hform
    · obtain ⟨tag, htag, hset⟩ := List.mem_flatMap.mp hlength
      obtain ⟨rfl, text, n, htext, hvalue, rfl⟩ := set_mem_count hset
      exact length htag htext hvalue
    · obtain ⟨tag, htag, hset⟩ := List.mem_flatMap.mp hform
      obtain ⟨rfl, text, htext, rfl⟩ := set_mem_verbatim hset
      exact form htag htext
  | array =>
    obtain ⟨tag, htag, hset⟩ := List.mem_flatMap.mp h
    obtain ⟨rfl, text, n, htext, hvalue, rfl⟩ := set_mem_count hset
    exact count htag htext hvalue
  | other => simp [gated] at h

theorem admits_of_mem_gated {tags : Dict String} {gate : Gate} {key : String} {value : Json}
    (h : .set key value ∈ gated tags gate) : Admits tags gate key value :=
  set_mem_gated .range .integer .length .form .count h

theorem admits_of_mem_default {tags : Dict String} {gate : Gate} {key : String} {value : Json}
    (h : .set key value ∈ default? tags) : Admits tags gate key value := by
  unfold default? at h
  split at h
  · simp at h
  · rename_i text htext
    simp only [valued_unlimited, List.mem_singleton, Edit.set.injEq] at h
    obtain ⟨rfl, rfl⟩ := h
    exact .default gate htext

theorem admits_of_mem_extensions {tags : Dict String} {gate : Gate} {key : String}
    {value : Json} (h : .set key value ∈ extensions tags) : Admits tags gate key value := by
  simp only [extensions, valued_unlimited, List.mem_map, List.mem_filter, Edit.set.injEq] at h
  obtain ⟨⟨tag, text⟩, ⟨hmem, htag⟩, rfl, rfl⟩ := h
  exact .extension gate hmem (by simpa using htag)

/-- A pass over a node sets admitted fields only. -/
theorem admits_of_mem_edits {type : Option Json} {tags : Dict String}
    {description : Option String} {gate : Gate} {key : String} {value : Json}
    (hgate : Constraint.gate type = .ok gate)
    (h : .set key value ∈ edits type tags description) : Admits tags gate key value := by
  rw [edits, hgate] at h
  simp only [List.mem_append] at h
  rcases h with hdescribe | (hgated | hdefault) | hextension
  · obtain ⟨rfl, text, rfl⟩ := set_mem_describe hdescribe
    exact .description gate text
  · exact admits_of_mem_gated hgated
  · exact admits_of_mem_default hdefault
  · exact admits_of_mem_extensions hextension

/-- A count fails where its text cannot be converted. -/
theorem failed_mem_count {tags : Dict String} {tag : String} {failure : Failure}
    (h : .failed failure ∈ count tags tag) :
    ∃ text, Dict.get? tag tags = some text ∧ Tag.count? text = .error failure := by
  unfold count at h
  split at h
  · simp at h
  · rename_i text htext
    split at h
    · simp at h
    · simp at h
    · rename_i failure' hfailure
      simp only [List.mem_singleton, Edit.failed.injEq] at h
      exact ⟨text, htext, h ▸ hfailure⟩

/-- Of the gated keywords, only a length or a count can fail. -/
theorem failed_mem_gated {tags : Dict String} {gate : Gate} {failure : Failure}
    (h : .failed failure ∈ gated tags gate) :
    ∃ tag text, Dict.get? tag tags = some text ∧ Tag.count? text = .error failure := by
  cases gate with
  | numeric =>
    simp only [gated, toInteger, numeric, List.mem_append, List.mem_flatMap] at h
    rcases h with ⟨tag, -, hrange⟩ | hinteger
    · split at hrange
      · simp at hrange
      · split at hrange <;> simp at hrange
    · split at hinteger <;> simp at hinteger
  | string =>
    rcases List.mem_append.mp h with hlength | hform
    · obtain ⟨tag, -, hcount⟩ := List.mem_flatMap.mp hlength
      exact ⟨tag, failed_mem_count hcount⟩
    · obtain ⟨tag, -, hverbatim⟩ := List.mem_flatMap.mp hform
      unfold verbatim at hverbatim
      split at hverbatim <;> simp at hverbatim
  | array =>
    obtain ⟨tag, -, hcount⟩ := List.mem_flatMap.mp h
    exact ⟨tag, failed_mem_count hcount⟩
  | other => simp [gated] at h

theorem failed_mem_edits {type : Option Json} {tags : Dict String}
    {description : Option String} {gate : Gate} {failure : Failure}
    (hgate : Constraint.gate type = .ok gate)
    (h : .failed failure ∈ edits type tags description) :
    ∃ tag text, Dict.get? tag tags = some text ∧ Tag.count? text = .error failure := by
  rw [edits, hgate] at h
  simp only [List.mem_append] at h
  rcases h with hdescribe | (hgated | hdefault) | hextension
  · unfold describe at hdescribe
    split at hdescribe
    · split at hdescribe <;> simp at hdescribe
    · simp at hdescribe
  · exact failed_mem_gated hgated
  · unfold default? at hdefault
    split at hdefault <;> simp at hdefault
  · simp [extensions] at hextension

/-! ## A pass as a whole -/

/-- A pass yields its node if no edit fails. -/
theorem applied_eq_ok_iff [Room] {node result : Node} {tags : Dict String}
    {description : Option String} :
    (applied node tags description).outcome = .ok result ↔
      (apply node tags description).failure? = none ∧
        (apply node tags description).node = result := by
  unfold applied
  cases hfailure : (apply node tags description).failure? <;> simp [hfailure]

theorem applied_eq_error_iff [Room] {node : Node} {tags : Dict String} {description : Option String}
    {failure : Failure} :
    (applied node tags description).outcome = .error failure ↔
      (apply node tags description).failure? = some failure := by
  unfold applied
  cases hfailure : (apply node tags description).failure? <;> simp [hfailure]

/-- Whatever each admitted field preserves, a pass preserves. -/
theorem applied_induction {P : Node → Prop} {node result : Node} {tags : Dict String}
    {description : Option String} {gate : Gate}
    (hgate : Constraint.gate (Dict.get? "type" node) = .ok gate)
    (hset : ∀ key value node, Admits tags gate key value → P node → P (Dict.set key value node))
    (h : P node) (happlied : (applied node tags description).outcome = .ok result) :
    P result := by
  rw [applied_eq_ok_iff] at happlied
  rw [← happlied.2]
  exact run_induction
    (fun key value node hmem ↦ hset key value node (admits_of_mem_edits hgate hmem)) h

/-- A key that the pass may not set keeps its value. -/
theorem get?_applied_of_not_admits {node result : Node} {tags : Dict String}
    {description : Option String} {gate : Gate} {key : String}
    (hgate : Constraint.gate (Dict.get? "type" node) = .ok gate)
    (hkey : ∀ value, ¬ Admits tags gate key value)
    (happlied : (applied node tags description).outcome = .ok result) :
    Dict.get? key result = Dict.get? key node := by
  refine applied_induction (P := fun other ↦ Dict.get? key other = Dict.get? key node) hgate
    (fun other value current hadmits hcurrent ↦ ?_) rfl happlied
  have hne : other ≠ key := fun heq ↦ hkey value (heq ▸ hadmits)
  rw [Dict.get?_set, if_neg hne, hcurrent]

/-- Conversion to an integer fails for an overlong text only. -/
theorem failure_of_count? {text : String} {failure : Failure}
    (h : Tag.count? text = .error failure) : failure = .overlongInteger := by
  unfold Tag.count? at h
  split at h
  · cases h
  · split at h
    · exact (Except.error.inj h).symm
    · cases h

/-- Only an integer that is too long to convert ends a pass. -/
theorem failure_of_applied {node : Node} {tags : Dict String} {description : Option String}
    {gate : Gate} {failure : Failure}
    (hgate : Constraint.gate (Dict.get? "type" node) = .ok gate)
    (h : (applied node tags description).outcome = .error failure) :
    failure = .overlongInteger := by
  obtain ⟨tag, text, -, hcount⟩ :=
    failed_mem_edits hgate (failed_mem_of_run (applied_eq_error_iff.mp h))
  exact failure_of_count? hcount

/-- A pass with readable tags does not fail. -/
theorem applied_eq_ok_of_readable {symbol : Option Symbol} (hsymbol : Symbol.Readable symbol)
    {tags : Dict String} (htags : Symbol.tagTextsOf symbol = .ok tags) {node : Node}
    {gate : Gate} (hgate : Constraint.gate (Dict.get? "type" node) = .ok gate)
    (description : Option String) :
    ∃ result, (applied node tags description).outcome = .ok result := by
  cases hfailure : (apply node tags description).failure? with
  | none => exact ⟨_, applied_eq_ok_iff.mpr ⟨hfailure, rfl⟩⟩
  | some failure =>
    obtain ⟨tag, text, htext, hcount⟩ := failed_mem_edits hgate (failed_mem_of_run hfailure)
    exact absurd hcount (hsymbol.count?_ne_error htags (Dict.mem_of_get?_eq_some htext) failure)

/-! ## Fields that no pass sets -/

/-- The fields that builders set and no pass touches. -/
def builtKeys : List String := ["const", "enum", "items", "properties", "required"]

theorem toList_extensionKey (tag : String) :
    (extensionKey tag).toList = 'x' :: '-' :: tag.toList := by
  simp [extensionKey]

theorem not_admits_builtKey {tags : Dict String} {gate : Gate} {key : String}
    (hkey : key ∈ builtKeys) (value : Json) : ¬ Admits tags gate key value := by
  intro h
  cases h with
  | description => exact absurd hkey (by decide)
  | range htag => exact absurd hkey ((by decide : ∀ key ∈ numericTags, key ∉ builtKeys) _ htag)
  | integer => exact absurd hkey (by decide)
  | length htag => exact absurd hkey ((by decide : ∀ key ∈ lengthTags, key ∉ builtKeys) _ htag)
  | form htag => exact absurd hkey ((by decide : ∀ key ∈ formTags, key ∉ builtKeys) _ htag)
  | count htag => exact absurd hkey ((by decide : ∀ key ∈ countTags, key ∉ builtKeys) _ htag)
  | default => exact absurd hkey (by decide)
  | @extension gate tag text hmem htag =>
    have hhead : ∀ key ∈ builtKeys, key.toList.head? ≠ some 'x' := by decide
    exact hhead _ hkey (by rw [toList_extensionKey]; rfl)

/-- A pass leaves the structure of a schema as it is. -/
theorem get?_applied_builtKey {node result : Node} {tags : Dict String}
    {description : Option String} {gate : Gate} {key : String} (hkey : key ∈ builtKeys)
    (hgate : Constraint.gate (Dict.get? "type" node) = .ok gate)
    (happlied : (applied node tags description).outcome = .ok result) :
    Dict.get? key result = Dict.get? key node :=
  get?_applied_of_not_admits hgate (not_admits_builtKey hkey) happlied

/-- Of the types, a pass only turns numbers into integers. -/
theorem Admits.type_eq {tags : Dict String} {gate : Gate} {value : Json}
    (h : Admits tags gate "type" value) : gate = .numeric ∧ value = .str "integer" := by
  generalize hkey : "type" = key at h
  cases h with
  | integer => exact ⟨rfl, rfl⟩
  | description => exact absurd hkey (by decide)
  | range htag => exact absurd htag (hkey ▸ by decide)
  | length htag => exact absurd htag (hkey ▸ by decide)
  | form htag => exact absurd htag (hkey ▸ by decide)
  | count htag => exact absurd htag (hkey ▸ by decide)
  | default => exact absurd hkey (by decide)
  | @extension gate tag text hmem htag =>
    have hhead : "type".toList.head? = some 'x' := by
      rw [hkey, toList_extensionKey]
      rfl
    exact absurd hhead (by decide)

/-- An admitted field keeps the gate, even where it turns a number into an integer. -/
theorem Admits.gate_set {tags : Dict String} {gate : Gate} {key : String} {value : Json}
    {node : Node} (h : Admits tags gate key value)
    (hgate : Constraint.gate (Dict.get? "type" node) = .ok gate) :
    Constraint.gate (Dict.get? "type" (Dict.set key value node)) = .ok gate := by
  rw [Dict.get?_set]
  split
  · rename_i hkey
    obtain ⟨rfl, rfl⟩ := Admits.type_eq (hkey ▸ h)
    rfl
  · exact hgate

/-- Constraints do not change the kind of a node. -/
theorem gate_applied {node result : Node} {tags : Dict String} {description : Option String}
    {gate : Gate} (hgate : Constraint.gate (Dict.get? "type" node) = .ok gate)
    (happlied : (applied node tags description).outcome = .ok result) :
    Constraint.gate (Dict.get? "type" result) = .ok gate :=
  applied_induction
    (P := fun current ↦ Constraint.gate (Dict.get? "type" current) = .ok gate) hgate
    (fun _ _ _ hadmits hcurrent ↦ hadmits.gate_set hcurrent) hgate happlied

end Schematic.Constraint
