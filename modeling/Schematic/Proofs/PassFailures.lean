import Schematic.Proofs.MemberPass

/-!
# Failures of a pass

Of all that is done with the texts of tags, only the conversion of an integer can fail, and it fails
if the integer has more digits than are converted. A pass converts the lengths of strings and the
counts of arrays, and nowhere else does it fail. Apart from that, a numeric tag, a length or a count
whose text is of no use leaves the node as if the tag were not there.
-/

namespace Schematic.Constraint

/-- The text begins with an integer of more digits than are converted. -/
def IsOverlong (text : String) : Prop :=
  ∃ digits ∈ Tag.countDigits? text.toList, Json.integerDigitLimit < digits.2.length

/-- Tags that can be converted have no overlong text. -/
theorem Convertible.not_isOverlong {tags : Dict String} (h : Convertible tags) {tag text : String}
    (htext : Dict.get? tag tags = some text) : ¬ IsOverlong text := by
  rintro ⟨digits, hdigits, hlong⟩
  exact Nat.not_lt.mpr (h (tag, text) (Dict.mem_of_get?_eq_some htext) digits hdigits) hlong

/-- A length of a string or a count of an array that cannot be converted. -/
inductive Overlong (node : Node) : String → String → Prop where
  | length {tag text : String} (htype : IsOf "string" node) (htag : tag ∈ ["minLength", "maxLength"])
      (htext : IsOverlong text) : Overlong node tag text
  | count {tag text : String} (htype : IsOf "array" node) (htag : tag ∈ ["minItems", "maxItems"])
      (htext : IsOverlong text) : Overlong node tag text

theorem Overlong.mem {node : Node} {tag text : String} (h : Overlong node tag text) :
    tag ∈ lengthTags ++ countTags := by
  cases h with
  | length _ htag _ => exact List.mem_append_left _ htag
  | count _ htag _ => exact List.mem_append_right _ htag

theorem Overlong.isOverlong {node : Node} {tag text : String} (h : Overlong node tag text) :
    IsOverlong text := by
  cases h with
  | length _ _ htext => exact htext
  | count _ _ htext => exact htext

/-- The tags that are converted to integers on a node of the given gate. -/
def Gate.counted : Gate → List String
  | .string => lengthTags
  | .array => countTags
  | _ => []

/-- Which tags are converted depends on the kind of the node. -/
theorem overlong_iff {node : Node} {gate : Gate}
    (hgate : Constraint.gate (Dict.get? "type" node) = .ok gate) {tag text : String} :
    Overlong node tag text ↔ tag ∈ gate.counted ∧ IsOverlong text := by
  constructor
  · intro h
    cases h with
    | length htype htag htext =>
      obtain rfl := Except.ok.inj (gate_of_isOf htype hgate)
      exact ⟨htag, htext⟩
    | count htype htag htext =>
      obtain rfl := Except.ok.inj (gate_of_isOf htype hgate)
      exact ⟨htag, htext⟩
  · rintro ⟨htag, htext⟩
    cases gate with
    | string => exact .length (type_of_gate_string hgate) htag htext
    | array => exact .count (type_of_gate_array hgate) htag htext
    | numeric | other => exact absurd htag List.not_mem_nil

/-! ## When a pass fails -/

theorem failed_mem_count_iff {tags : Dict String} {tag : String} {failure : Failure} :
    .failed failure ∈ count tags tag ↔
      ∃ text, Dict.get? tag tags = some text ∧ Tag.count? text = .error failure := by
  refine ⟨failed_mem_count, ?_⟩
  rintro ⟨text, htext, hcount⟩
  simp [count, htext, hcount]

/-- Keywords fail only for the counts of their kind. -/
theorem failed_mem_gated_iff {tags : Dict String} {gate : Gate} {failure : Failure} :
    .failed failure ∈ gated tags gate ↔ ∃ tag ∈ gate.counted, .failed failure ∈ count tags tag := by
  cases gate with
  | numeric =>
    have hnumeric (tag : String) : .failed failure ∉ numeric tags tag := by
      unfold numeric
      split
      · simp
      · split <;> simp
    have hinteger : .failed failure ∉ toInteger tags := by
      unfold toInteger
      split <;> simp
    simp [gated, Gate.counted, hnumeric, hinteger]
  | string =>
    have hverbatim (tag : String) : .failed failure ∉ verbatim tags tag := by
      unfold verbatim
      split <;> simp
    simp [gated, Gate.counted, hverbatim]
  | array => simp [gated, Gate.counted]
  | other => simp [gated, Gate.counted]

theorem failed_mem_edits_iff {type : Option Json} {gate : Gate}
    (hgate : Constraint.gate type = .ok gate) {tags : Dict String} {description : Option String}
    {failure : Failure} :
    .failed failure ∈ edits type tags description ↔ .failed failure ∈ gated tags gate := by
  have hdescribe : .failed failure ∉ describe description := by
    unfold describe
    split
    · split <;> simp
    · simp
  have hdefault : .failed failure ∉ default? tags := by
    unfold default?
    split <;> simp
  have hextensions : .failed failure ∉ extensions tags := by simp [extensions]
  simp [edits_eq hgate, hdescribe, hdefault, hextensions]

/-- A run with a failing edit fails, if not with this one. -/
theorem exists_failure_of_mem {edits : List Edit} {failure : Failure} (h : .failed failure ∈ edits)
    (node : Node) : ∃ first, (run node edits).failure? = some first := by
  induction edits generalizing node with
  | nil => simp at h
  | cons edit rest ih =>
    cases edit with
    | set key value => exact ih (by simpa using h) (Dict.set key value node)
    | dropped tag text => exact ih (by simpa using h) node
    | failed first => exact ⟨first, rfl⟩

/-- A pass fails at nothing but an integer that is too long to convert. -/
theorem exists_overlong {node : Node} {gate : Gate}
    (hgate : Constraint.gate (Dict.get? "type" node) = .ok gate) {tags : Dict String}
    {description : Option String} {failure : Failure}
    (h : (applied node tags description).outcome = .error failure) :
    failure = .overlongInteger ∧ ∃ tag text, Dict.get? tag tags = some text ∧ Overlong node tag text := by
  have hfailed := failed_mem_of_run (applied_eq_error_iff.mp h)
  rw [failed_mem_edits_iff hgate, failed_mem_gated_iff] at hfailed
  obtain ⟨tag, htag, hcount⟩ := hfailed
  obtain ⟨text, htext, hlong⟩ := failed_mem_count_iff.mp hcount
  obtain ⟨hfailure, hlong⟩ := count?_eq_error_iff.mp hlong
  exact ⟨hfailure, tag, text, htext, (overlong_iff hgate).mpr ⟨htag, hlong⟩⟩

/-- A pass fails exactly if it has to convert an integer that is too long. -/
theorem applied_eq_error_iff_overlong {node : Node} (hnode : HasTextType node) {tags : Dict String}
    {description : Option String} {failure : Failure} :
    (applied node tags description).outcome = .error failure ↔
      failure = .overlongInteger ∧
        ∃ tag text, Dict.get? tag tags = some text ∧ Overlong node tag text := by
  obtain ⟨gate, hgate⟩ := hnode.exists_gate
  constructor
  · exact exists_overlong hgate
  · rintro ⟨rfl, tag, text, htext, hlong⟩
    obtain ⟨htag, hlong⟩ := (overlong_iff hgate).mp hlong
    have hcount : .failed .overlongInteger ∈ count tags tag :=
      failed_mem_count_iff.mpr ⟨text, htext, count?_eq_error_iff.mpr ⟨rfl, hlong⟩⟩
    have hfailed : .failed .overlongInteger ∈ edits (Dict.get? "type" node) tags description :=
      (failed_mem_edits_iff hgate).mpr (failed_mem_gated_iff.mpr ⟨tag, htag, hcount⟩)
    obtain ⟨first, hfirst⟩ := exists_failure_of_mem hfailed node
    have herror := applied_eq_error_iff.mpr hfirst
    rwa [failure_of_applied hgate herror] at herror

/-- A pass over an enumeration keeps its values. -/
theorem exists_applied_enum (values : List Json) (tags : Dict String)
    (description : Option String) : ∃ node,
      (applied [("enum", .arr values)] tags description).outcome = .ok node ∧
        Dict.get? "enum" node = some (.arr values) := by
  have hgate : gate (Dict.get? "type" [("enum", Json.arr values)]) = .ok .other := rfl
  cases happlied : (applied [("enum", .arr values)] tags description).outcome with
  | ok node => exact ⟨node, rfl, get?_applied_builtKey (by decide) hgate happlied⟩
  | error failure =>
    have hnode : HasTextType [("enum", Json.arr values)] := fun type hfound ↦ by cases hfound
    obtain ⟨-, tag, text, -, hlong⟩ := (applied_eq_error_iff_overlong hnode).mp happlied
    cases hlong with
    | length hof | count hof => cases hof

/-! ## Tags without effect -/

def without (tag : String) (tags : Dict String) : Dict String :=
  tags.filter fun entry ↦ entry.1 ≠ tag

theorem get?_without (tag other : String) (tags : Dict String) :
    Dict.get? other (without tag tags) = if other = tag then none else Dict.get? other tags := by
  rw [without, Dict.get?_filter_fst (fun name ↦ decide (name ≠ tag))]
  by_cases h : other = tag <;> simp [h]

/-- Whether an edit does more than to record that a tag is dropped. -/
def Edit.isEffective : Edit → Bool
  | .dropped _ _ => false
  | _ => true

/-- What a run does to the node is up to its effective edits. -/
theorem run_filter (node : Node) (edits : List Edit) :
    (run node (edits.filter Edit.isEffective)).node = (run node edits).node ∧
      (run node (edits.filter Edit.isEffective)).failure? = (run node edits).failure? := by
  induction edits generalizing node with
  | nil => exact ⟨rfl, rfl⟩
  | cons edit rest ih =>
    cases edit with
    | set key value => exact ih (Dict.set key value node)
    | dropped tag text => exact ih node
    | failed failure => exact ⟨rfl, rfl⟩

section

variable {tags : Dict String} {tag text : String}

/-- A tag that gives no number has no effect. -/
theorem filter_numeric_without (htext : Dict.get? tag tags = some text)
    (hnumber : tag ∈ numericTags → Tag.number? text = none) {name : String}
    (hname : name ∈ numericTags) :
    (numeric (without tag tags) name).filter Edit.isEffective =
      (numeric tags name).filter Edit.isEffective := by
  unfold numeric
  rw [get?_without]
  by_cases heq : name = tag
  · subst heq
    simp [htext, hnumber hname, Edit.isEffective]
  · rw [if_neg heq]

theorem filter_count_without (htext : Dict.get? tag tags = some text) {names : List String}
    (hcount : tag ∈ names → Tag.count? text = .ok none) {name : String} (hname : name ∈ names) :
    (count (without tag tags) name).filter Edit.isEffective =
      (count tags name).filter Edit.isEffective := by
  unfold count
  rw [get?_without]
  by_cases heq : name = tag
  · subst heq
    simp [htext, hcount hname, Edit.isEffective]
  · rw [if_neg heq]

theorem filter_flatMap_congr {names : List String} {edits edits' : String → List Edit}
    (h : ∀ name ∈ names,
      (edits' name).filter Edit.isEffective = (edits name).filter Edit.isEffective) :
    (names.flatMap edits').filter Edit.isEffective = (names.flatMap edits).filter Edit.isEffective := by
  rw [List.filter_flatMap, List.filter_flatMap]
  exact List.flatMap_congr h

theorem mem_of_not_isUsable (h : isUsable tag text = false) :
    tag ∈ numericTags ++ (lengthTags ++ countTags) := by
  unfold isUsable at h
  by_contra hmem
  rw [List.mem_append, not_or] at hmem
  rw [if_neg hmem.1, if_neg hmem.2] at h
  cases h

/-- A numeric tag of no use gives no number. -/
theorem number?_of_not_isUsable (h : isUsable tag text = false) (htag : tag ∈ numericTags) :
    Tag.number? text = none := by
  rw [isUsable, if_pos htag] at h
  exact Option.isNone_iff_eq_none.mp (Option.isSome_eq_false_iff.mp h)

/-- A counting tag of no use, if it is not overlong, gives no integer. -/
theorem count?_of_not_isUsable (h : isUsable tag text = false) (htag : tag ∈ lengthTags ++ countTags)
    (hshort : ¬ IsOverlong text) : Tag.count? text = .ok none := by
  have hother : ∀ tag ∈ lengthTags ++ countTags, tag ∉ numericTags := by decide
  rw [isUsable, if_neg (hother tag htag), if_pos htag] at h
  cases hcount : Tag.count? text with
  | error failure => exact absurd (count?_eq_error_iff.mp hcount).2 hshort
  | ok value =>
    cases value with
    | none => rfl
    | some n => simp [countValue?, hcount] at h

theorem filter_gated_without (htext : Dict.get? tag tags = some text)
    (husable : isUsable tag text = false) {gate : Gate}
    (hshort : tag ∈ gate.counted → ¬ IsOverlong text) :
    (gated (without tag tags) gate).filter Edit.isEffective =
      (gated tags gate).filter Edit.isEffective := by
  have hcounted (names : List String) (hnames : names ⊆ lengthTags ++ countTags)
      (hshort : tag ∈ names → ¬ IsOverlong text) :
      (names.flatMap (count (without tag tags))).filter Edit.isEffective =
        (names.flatMap (count tags)).filter Edit.isEffective :=
    filter_flatMap_congr fun name hname ↦ filter_count_without htext
      (fun htag ↦ count?_of_not_isUsable husable (hnames htag) (hshort htag)) hname
  have hother : ∀ tag ∈ numericTags ++ (lengthTags ++ countTags),
      tag ≠ integerTag ∧ tag ∉ formTags := by decide
  obtain ⟨hinteger, hform⟩ := hother tag (mem_of_not_isUsable husable)
  cases gate with
  | numeric =>
    have htoInteger : toInteger (without tag tags) = toInteger tags := by
      unfold toInteger Dict.contains
      rw [get?_without, if_neg hinteger.symm]
    rw [gated, gated, List.filter_append, List.filter_append, htoInteger,
      filter_flatMap_congr fun name hname ↦
        filter_numeric_without htext (number?_of_not_isUsable husable) hname]
  | string =>
    have hverbatim : formTags.flatMap (verbatim (without tag tags)) =
        formTags.flatMap (verbatim tags) := by
      refine List.flatMap_congr fun name hname ↦ ?_
      unfold verbatim
      have hne : name ≠ tag := fun heq ↦ hform (heq ▸ hname)
      rw [get?_without, if_neg hne]
    rw [gated, gated, List.filter_append, List.filter_append, hverbatim,
      hcounted lengthTags (List.subset_append_left _ _) hshort]
  | array => exact hcounted countTags (List.subset_append_right _ _) hshort
  | other => rfl

/-- A tag that is of no use, and that a pass does not fail at, leaves the node as it would be without
the tag. -/
theorem apply_without [Room] {node : Node} (hnode : HasTextType node) (description : Option String)
    (htext : Dict.get? tag tags = some text) (husable : isUsable tag text = false)
    (hshort : ¬ Overlong node tag text) :
    (apply node (without tag tags) description).node = (apply node tags description).node ∧
      (apply node (without tag tags) description).failure? =
        (apply node tags description).failure? := by
  obtain ⟨gate, hgate⟩ := hnode.exists_gate
  have hother : ∀ tag ∈ numericTags ++ (lengthTags ++ countTags),
      tag ≠ defaultTag ∧ tag ∈ recognizedTags := by decide
  obtain ⟨hdefault, hrecognized⟩ := hother tag (mem_of_not_isUsable husable)
  have hdefaults : default? (without tag tags) = default? tags := by
    unfold default?
    rw [get?_without, if_neg hdefault.symm]
  have hextensions : extensions (without tag tags) = extensions tags := by
    unfold extensions without
    rw [List.filter_filter]
    congr 1
    refine List.filter_congr fun entry _ ↦ ?_
    by_cases heq : entry.1 = tag
    · simp [heq, hrecognized]
    · simp [heq]
  have hedits : (edits (Dict.get? "type" node) (without tag tags) description).filter
        Edit.isEffective =
      (edits (Dict.get? "type" node) tags description).filter Edit.isEffective := by
    simp only [edits_eq hgate, List.filter_append, hdefaults, hextensions]
    rw [filter_gated_without htext husable fun htag hlong ↦
      hshort ((overlong_iff hgate).mpr ⟨htag, hlong⟩)]
  unfold apply
  rw [← (run_filter node _).1, ← (run_filter node _).2, hedits, (run_filter node _).1,
    (run_filter node _).2]
  exact ⟨rfl, rfl⟩

end

end Schematic.Constraint
