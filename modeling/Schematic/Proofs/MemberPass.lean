import Mathlib.Tactic.FinCases
import Schematic.Proofs.PassEffect

/-!
# A pass over the node of a pass

A member is compiled to the node of its type, which a pass has seen, and a second pass lays the
documentation of the member over it. The two passes do what one pass does with the tags of the type,
overlaid by those tags of the member that can be of use. The first pass may turn a number into an
integer, but it keeps the gate, so both passes read their tags alike.
-/

namespace Schematic.Constraint

/-- A numeric tag is of use if its text gives a number, a length or a count if it gives an integer. -/
def isUsable (tag text : String) : Bool :=
  if tag ∈ numericTags then (Tag.number? text).isSome
  else if tag ∈ lengthTags ++ countTags then (countValue? text).isSome
  else true

/-- The tags of a type, overlaid by the usable tags of a member. -/
def overlay (tags refinement : Dict String) : Dict String :=
  Dict.update tags (refinement.filter fun entry ↦ isUsable entry.1 entry.2)

/-- The description of a member, or that of its type where the member has none. -/
def overlayDescription (description refinement : Option String) : Option String :=
  (refinement.filter (· ≠ "")).or description

/-! ## Reading overlaid tags -/

/-- Keywords stand on nodes of their gate; a default and an extension stand on every node. -/
def Gate.opens (gate : Gate) (tag : String) : Bool :=
  if tag ∈ numericTags ++ [integerTag] then gate = .numeric
  else if tag ∈ lengthTags ++ formTags then gate = .string
  else if tag ∈ countTags then gate = .array
  else true

/-- Whether a tag gives a value is decided by the gate and by the text apart. -/
theorem isSome_reading? (gate : Gate) (tag text : String) :
    (reading? gate tag text).isSome = (gate.opens tag && isUsable tag text) := by
  by_cases htag : tag ∈ recognizedTags
  · have hcases : tag ∈ ["minimum", "maximum", "multipleOf", "integer", "minLength", "maxLength",
        "pattern", "format", "minItems", "maxItems", "default"] := htag
    fin_cases hcases <;> cases gate <;> rfl
  · have hother : tag ∉ numericTags ++ [integerTag] ∧ tag ∉ lengthTags ++ formTags ∧
        tag ∉ countTags ∧ tag ∉ numericTags ∧ tag ∉ lengthTags ++ countTags := by
      simp only [recognizedTags, List.mem_append, not_or] at htag
      simp [htag]
    obtain ⟨hnumeric, hstring, hcount, hrange, hcounted⟩ := hother
    rw [reading?_extension htag, Gate.opens, if_neg hnumeric, if_neg hstring, if_neg hcount, isUsable,
      if_neg hrange, if_neg hcounted]
    rfl

/-- A tag whose text is of no use gives no value. -/
theorem reading?_of_not_isUsable {tag text : String} (h : isUsable tag text = false) (gate : Gate) :
    reading? gate tag text = none := by
  have hnone := isSome_reading? gate tag text
  rw [h, Bool.and_false] at hnone
  exact Option.isNone_iff_eq_none.mp (Option.isSome_eq_false_iff.mp hnone)

/-- Where a text of use gives no value, the gate leaves the tag out, and no text gives one. -/
theorem reading?_of_isUsable {gate : Gate} {tag text : String} (h : isUsable tag text = true)
    (hnone : reading? gate tag text = none) (other : String) : reading? gate tag other = none := by
  have hclosed := isSome_reading? gate tag text
  rw [hnone, h, Bool.and_true, Option.isSome_none] at hclosed
  have hother := isSome_reading? gate tag other
  rw [← hclosed, Bool.false_and] at hother
  exact Option.isNone_iff_eq_none.mp (Option.isSome_eq_false_iff.mp hother)

/-- A usable tag of the member goes before the tag of the type. -/
theorem get?_overlay (tags : Dict String) {refinement : Dict String}
    (hkeys : (Dict.keys refinement).Nodup) (tag : String) :
    Dict.get? tag (overlay tags refinement) =
      ((Dict.get? tag refinement).filter (isUsable tag)).or (Dict.get? tag tags) := by
  have hfilter : ((refinement.filter fun entry ↦ isUsable entry.1 entry.2).map Prod.fst).Nodup :=
    hkeys.sublist (List.filter_sublist.map Prod.fst)
  rw [overlay, Dict.get?_update_of_nodup hfilter, Dict.get?_filter isUsable tag hkeys]

/-- Overlaid tags give a key the value of the refinement, if that gives one. -/
theorem reading?_overlay (gate : Gate) (tags : Dict String) {refinement : Dict String}
    (hkeys : (Dict.keys refinement).Nodup) (tag : String) :
    (Dict.get? tag (overlay tags refinement)).bind (reading? gate tag) =
      ((Dict.get? tag refinement).bind (reading? gate tag)).or
        ((Dict.get? tag tags).bind (reading? gate tag)) := by
  rw [get?_overlay tags hkeys]
  cases htext : Dict.get? tag refinement with
  | none => rfl
  | some text =>
    cases husable : isUsable tag text with
    | false => simp [Option.filter, husable, reading?_of_not_isUsable husable]
    | true =>
      cases hvalue : reading? gate tag text with
      | some value => simp [Option.filter, husable, hvalue]
      | none =>
        have hother := reading?_of_isUsable husable hvalue
        cases Dict.get? tag tags <;> simp [Option.filter, husable, hother]

/-- An empty description does not hide that of the type. -/
theorem described?_overlayDescription (description refinement : Option String) :
    described? (overlayDescription description refinement) =
      (described? refinement).or (described? description) := by
  cases refinement with
  | none => rfl
  | some text =>
    by_cases htext : text = ""
    · simp [described?, overlayDescription, Option.filter, htext]
    · simp [described?, overlayDescription, Option.filter, htext]

/-- Tags that can be converted can be so after the overlay. -/
theorem Convertible.overlay {tags refinement : Dict String} (h : Convertible tags)
    (hrefinement : Convertible refinement) : Convertible (overlay tags refinement) := by
  intro entry hentry
  rcases Dict.mem_of_mem_update hentry with htags | hfilter
  · exact h entry htags
  · exact hrefinement entry (List.mem_filter.mp hfilter).1

/-- The fields of overlaid tags are those of the refinement before those of the tags. -/
theorem get?_fields_overlay (gate : Gate) {tags refinement : Dict String}
    (hkeys : (Dict.keys tags).Nodup) (hrefinement : (Dict.keys refinement).Nodup)
    (description refinedDescription : Option String) (key : String) :
    Dict.get? key (fields gate (overlay tags refinement)
        (overlayDescription description refinedDescription)) =
      (Dict.get? key (fields gate refinement refinedDescription)).or
        (Dict.get? key (fields gate tags description)) := by
  have hoverlay : (Dict.keys (overlay tags refinement)).Nodup := Dict.nodup_keys_update hkeys _
  by_cases hdescription : key = "description"
  · subst hdescription
    rw [get?_fields_description gate hoverlay, get?_fields_description gate hrefinement,
      get?_fields_description gate hkeys, described?_overlayDescription]
  by_cases hkey : ∃ tag, key = keyOf tag
  · obtain ⟨tag, rfl⟩ := hkey
    rw [get?_fields_keyOf gate hoverlay, get?_fields_keyOf gate hrefinement,
      get?_fields_keyOf gate hkeys, reading?_overlay gate tags hrefinement]
  · have hkey : ∀ tag, key ≠ keyOf tag := not_exists.mp hkey
    rw [get?_fields_eq_none gate hoverlay _ hdescription hkey,
      get?_fields_eq_none gate hrefinement _ hdescription hkey,
      get?_fields_eq_none gate hkeys _ hdescription hkey, Option.or_none]

/-! ## Two passes -/

/-- Two passes give every key the value that one pass with the overlaid tags and description gives it.
What the refinement would write on the node itself, it writes after the first pass too; a tag of the
refinement that is of no use changes nothing. A pass that is repeated changes nothing at all. -/
theorem applied_overlay {node : Node} (hnode : HasTextType node) {tags refinement : Dict String}
    (hkeys : (Dict.keys tags).Nodup) (hrefinement : (Dict.keys refinement).Nodup)
    (htags : Convertible tags) (hconvertible : Convertible refinement)
    (description refinedDescription : Option String) :
    ∃ once twice overlaid,
      (applied node tags description).outcome = .ok once ∧
      (applied once refinement refinedDescription).outcome = .ok twice ∧
      (applied node (overlay tags refinement)
        (overlayDescription description refinedDescription)).outcome = .ok overlaid ∧
      (∀ key, Dict.get? key twice = Dict.get? key overlaid) ∧
      (∀ key value, Writes node refinement refinedDescription key value →
        Dict.get? key twice = some value) ∧
      (∀ tag text, Dict.get? tag refinement = some text → isUsable tag text = false →
        Dict.get? (keyOf tag) twice = Dict.get? (keyOf tag) once) ∧
      (applied once tags description).outcome = .ok once := by
  obtain ⟨gate, hgate⟩ := hnode.exists_gate
  have honce := applied_eq_ok hgate htags description
  have hkept := gate_applied hgate honce
  have hlookup {tags : Dict String} (hkeys : (Dict.keys tags).Nodup) (node : Node)
      (description : Option String) (key : String) :
      Dict.get? key (Dict.update node (fields gate tags description)) =
        (Dict.get? key (fields gate tags description)).or (Dict.get? key node) :=
    Dict.get?_update_of_nodup (nodup_keys_fields gate hkeys description)
  have hoverlay : (Dict.keys (overlay tags refinement)).Nodup := Dict.nodup_keys_update hkeys _
  refine ⟨_, _, _, honce, applied_eq_ok hkept hconvertible refinedDescription,
    applied_eq_ok hgate (htags.overlay hconvertible) _, fun key ↦ ?_, fun key value hwrites ↦ ?_,
    fun tag text htext husable ↦ ?_, ?_⟩
  · rw [hlookup hrefinement, hlookup hkeys, hlookup hoverlay,
      get?_fields_overlay gate hkeys hrefinement, Option.or_assoc]
  · rw [hlookup hrefinement, (writes_iff hgate hrefinement).mp hwrites, Option.some_or]
  · rw [hlookup hrefinement, get?_fields_keyOf gate hrefinement, htext, Option.bind_some,
      reading?_of_not_isUsable husable, Option.none_or]
  · have hfields := nodup_keys_fields gate hkeys description
    refine (applied_eq_ok hkept htags description).trans (congrArg _ ?_)
    refine Dict.update_of_get? fun entry hentry ↦ ?_
    rw [hlookup hkeys, Dict.get?_eq_some_of_mem hfields hentry, Option.some_or]

def lowest : Node :=
  [("type", .str "integer"), ("description", .str "A port."), ("minimum", .int 1)]

/-- A member gives an integer a maximum; what it says of the minimum is no number. -/
theorem applied_overlay_integer :
    (applied [("type", .str "number")] [("integer", ""), ("minimum", "1")] (some "A port.")).outcome =
      .ok lowest ∧
    (applied lowest [("minimum", "low"), ("maximum", "9")] none).outcome =
      .ok (lowest ++ [("maximum", .int 9)]) ∧
    (applied [("type", .str "number")]
      (overlay [("integer", ""), ("minimum", "1")] [("minimum", "low"), ("maximum", "9")])
      (overlayDescription (some "A port.") none)).outcome = .ok (lowest ++ [("maximum", .int 9)]) ∧
    (applied lowest [("integer", ""), ("minimum", "1")] (some "A port.")).outcome = .ok lowest := by
  have honce : (applied [("type", .str "number")] [("integer", ""), ("minimum", "1")]
      (some "A port.")).outcome = .ok lowest := rfl
  have hrefinement : Convertible [("minimum", "low"), ("maximum", "9")] := by decide
  obtain ⟨once, twice, overlaid, hfirst, -, -, -, -, -, hagain⟩ :=
    applied_overlay hasTextType_number
      (show (Dict.keys [("integer", ""), ("minimum", "1")]).Nodup by decide) (by decide) (by decide)
      hrefinement (some "A port.") none
  obtain rfl : lowest = once := Except.ok.inj (honce.symm.trans hfirst)
  exact ⟨honce, rfl, rfl, hagain⟩

end Schematic.Constraint
