import Schematic.Model.Scripted
import Schematic.Proofs.Subschema

/-!
# The shape of a compiled schema

Each keyword stands beside certain types only, and a node has either a type or an
enumeration. Builders set up this shape and passes keep it: a pass is gated by the type
that it finds, and where an earlier pass has turned a number into an integer, the gate
and the keywords of numbers stay the same. So every node of a compiled schema has it.
-/

namespace Schematic

namespace Node

open Constraint TypeModel

/-- The fields of a schema that are no extensions. -/
def keywords : List String :=
  ["type", "description", "const", "enum", "items", "properties", "required", "minLength",
    "maxLength", "pattern", "format", "minimum", "maximum", "multipleOf", "minItems", "maxItems",
    "default"]

/-- The keywords that stand beside certain types only, with the names of these types. -/
def typedKeywords : List (String × List String) :=
  [("const", ["string", "number", "integer", "boolean"]),
    ("minimum", ["number", "integer"]), ("maximum", ["number", "integer"]),
    ("multipleOf", ["number", "integer"]), ("minLength", ["string"]), ("maxLength", ["string"]),
    ("pattern", ["string"]), ("format", ["string"]), ("minItems", ["array"]),
    ("maxItems", ["array"]), ("items", ["array"]), ("properties", ["object"]),
    ("required", ["object"])]

structure Shape (node : Node) : Prop where
  distinct : (Dict.keys node).Nodup
  known : ∀ key ∈ Dict.keys node, key ∈ keywords ∨ ∃ tag, key = "x-" ++ tag
  typed : ∀ keyword ∈ typedKeywords, keyword.1 ∈ Dict.keys node →
    ∃ name ∈ keyword.2, Dict.get? "type" node = some (.str name)
  type_iff : "type" ∈ Dict.keys node ↔ "enum" ∉ Dict.keys node
  enum : ∀ values, Dict.get? "enum" node = some values →
    "const" ∉ Dict.keys node ∧ ∃ first rest, values = .arr (first :: rest)
  object : Dict.get? "type" node = some (.str "object") → "properties" ∈ Dict.keys node
  items : ∀ value, Dict.get? "items" node = some value → ∃ child, value = .obj child
  properties : ∀ value, Dict.get? "properties" node = some value →
    ∃ fields, value = .obj fields ∧ (Dict.keys fields).Nodup ∧
      ∀ field ∈ fields, ∃ child, field.2 = .obj child
  required : ∀ value, Dict.get? "required" node = some value →
    ∃ names fields, value = .strings names ∧ names ≠ [] ∧
      Dict.get? "properties" node = some (.obj fields) ∧ ∀ name ∈ names, name ∈ Dict.keys fields

/-! ## Built nodes -/

/-- A type other than that of objects may stand alone. -/
theorem shape_plain {name : String} (hname : name ≠ "object") : Shape [("type", .str name)] where
  distinct := by simp [Dict.keys]
  known := by simp [Dict.keys, keywords]
  typed := by simp [Dict.keys, typedKeywords]
  type_iff := by simp [Dict.keys]
  enum := by simp [Dict.get?]
  object := by simp [Dict.get?, hname]
  items := by simp [Dict.get?]
  properties := by simp [Dict.get?]
  required := by simp [Dict.get?]

/-- A constant stands beside the type of a literal. -/
theorem shape_const {name : String} (hname : name ∈ ["string", "number", "boolean"])
    (value : Json) : Shape [("type", .str name), ("const", value)] where
  distinct := by simp [Dict.keys]
  known := by simp [Dict.keys, keywords]
  typed := by
    simp only [List.mem_cons, List.not_mem_nil, or_false] at hname
    simp [Dict.keys, typedKeywords, Dict.get?]
    tauto
  type_iff := by simp [Dict.keys]
  enum := by simp [Dict.get?]
  object := by
    intro hobject
    simp_all [Dict.get?]
  items := by simp [Dict.get?]
  properties := by simp [Dict.get?]
  required := by simp [Dict.get?]

theorem shape_enum (value : Json) (values : List Json) :
    Shape [("enum", .arr (value :: values))] where
  distinct := by simp [Dict.keys]
  known := by simp [Dict.keys, keywords]
  typed := by simp [Dict.keys, typedKeywords]
  type_iff := by simp [Dict.keys]
  enum := by simp [Dict.get?, Dict.keys]
  object := by simp [Dict.get?]
  items := by simp [Dict.get?]
  properties := by simp [Dict.get?]
  required := by simp [Dict.get?]

/-- An array has one schema for all items. -/
theorem shape_array (items : Node) :
    Shape [("type", .str "array"), ("items", .obj items)] where
  distinct := by simp [Dict.keys]
  known := by simp [Dict.keys, keywords]
  typed := by simp [Dict.keys, typedKeywords, Dict.get?]
  type_iff := by simp [Dict.keys]
  enum := by simp [Dict.get?]
  object := by simp [Dict.get?]
  items := by simp [Dict.get?]
  properties := by simp [Dict.get?]
  required := by simp [Dict.get?]

theorem shape_object {fields : Dict Json} {required : List String}
    (hdistinct : (Dict.keys fields).Nodup)
    (hfields : ∀ field ∈ fields, ∃ child, field.2 = .obj child)
    (hrequired : ∀ name ∈ required, name ∈ Dict.keys fields) :
    Shape (objectNode fields required) where
  distinct := by
    rw [keys_objectNode]
    cases required <;> simp
  known := by
    rw [keys_objectNode]
    cases required <;> simp [keywords]
  typed := by
    rw [keys_objectNode, get?_objectNode_type]
    cases required <;> simp [typedKeywords]
  type_iff := by
    rw [keys_objectNode]
    cases required <;> simp
  enum := by simp [get?_objectNode_eq_none]
  object := by
    rw [keys_objectNode]
    simp
  items := by simp [get?_objectNode_eq_none]
  properties := by
    intro value hvalue
    rw [get?_objectNode_properties, Option.some.injEq] at hvalue
    exact ⟨fields, hvalue.symm, hdistinct, hfields⟩
  required := by
    intro value hvalue
    rw [get?_objectNode_required] at hvalue
    cases required with
    | nil => simp at hvalue
    | cons name names =>
      refine ⟨name :: names, fields, ?_, List.cons_ne_nil _ _, rfl, hrequired⟩
      simpa [eq_comm] using hvalue

theorem shape_of_built {τ ι : Type} {model : TypeModel τ ι} {compiled : τ → Node → Prop}
    {type : τ} {category : Category} {base : Node} (hcategory : model.classify type = .ok category)
    (h : Built model compiled type category base) : Shape base := by
  cases h with
  | string => exact shape_plain (by decide)
  | stringLiteral hvalue => exact shape_const (by decide) _
  | number => exact shape_plain (by decide)
  | numberLiteral hvalue => exact shape_const (by decide) _
  | boolean => exact shape_plain (by decide)
  | booleanLiteral => exact shape_const (by decide) _
  | null => exact shape_plain (by decide)
  | undefined => exact shape_plain (by decide)
  | @enum values hvalues =>
    obtain ⟨value, rest, hcons⟩ := enumValues_of_classify hcategory
    obtain rfl : values = value :: rest := Except.ok.inj (hvalues.symm.trans hcons)
    exact shape_enum value rest
  | union hvalues => exact shape_enum _ _
  | bareArray helement => exact shape_plain (by decide)
  | array helement hitems => exact shape_array _
  | object hmembers hproperties =>
    rw [structNode_eq]
    refine shape_object (Dict.nodup_keys_ofList _) (fun field hfield ↦ ?_) (fun name hname ↦ ?_)
    · obtain ⟨property, -, rfl⟩ := List.mem_map.mp (Dict.mem_of_mem_ofList hfield)
      exact ⟨property.schema, rfl⟩
    · obtain ⟨property, hproperty, rfl⟩ := List.mem_map.mp hname
      rw [Dict.mem_keys_ofList, List.map_map]
      exact List.mem_map.mpr ⟨property, (List.mem_filter.mp hproperty).1, rfl⟩

/-! ## Passes -/

theorem known_of_admits {tags : Dict String} {gate : Gate} {key : String} {value : Json}
    (h : Admits tags gate key value) : key ∈ keywords ∨ ∃ tag, key = "x-" ++ tag := by
  cases h with
  | description => exact .inl (by decide)
  | range htag => exact .inl ((by decide : ∀ tag ∈ numericTags, tag ∈ keywords) _ htag)
  | integer => exact .inl (by decide)
  | length htag => exact .inl ((by decide : ∀ tag ∈ lengthTags, tag ∈ keywords) _ htag)
  | form htag => exact .inl ((by decide : ∀ tag ∈ formTags, tag ∈ keywords) _ htag)
  | count htag => exact .inl ((by decide : ∀ tag ∈ countTags, tag ∈ keywords) _ htag)
  | default => exact .inl (by decide)
  | extension => exact .inr ⟨_, rfl⟩

/-- A gate admits a keyword only beside the types that the keyword is for. -/
theorem typed_of_admits {type : Option Json} {tags : Dict String} {gate : Gate}
    {keyword : String × List String} {value : Json} (hgate : Constraint.gate type = .ok gate)
    (h : Admits tags gate keyword.1 value) (hkeyword : keyword ∈ typedKeywords) :
    ∃ name ∈ keyword.2, type = some (.str name) := by
  generalize hkey : keyword.1 = key at h
  cases h with
  | description =>
    exact absurd hkey ((by decide : ∀ k ∈ typedKeywords, k.1 ≠ "description") _ hkeyword)
  | range htag =>
    have hnumeric : ∀ tag ∈ numericTags, ∀ k ∈ typedKeywords, k.1 = tag →
      "number" ∈ k.2 ∧ "integer" ∈ k.2 := by decide
    obtain ⟨hnumber, hinteger⟩ := hnumeric _ htag keyword hkeyword hkey
    rcases type_of_gate_numeric hgate with htype | htype
    · exact ⟨"number", hnumber, htype⟩
    · exact ⟨"integer", hinteger, htype⟩
  | integer => exact absurd hkey ((by decide : ∀ k ∈ typedKeywords, k.1 ≠ "type") _ hkeyword)
  | length htag =>
    have hstring : ∀ tag ∈ lengthTags, ∀ k ∈ typedKeywords, k.1 = tag → "string" ∈ k.2 := by decide
    exact ⟨"string", hstring _ htag keyword hkeyword hkey, type_of_gate_string hgate⟩
  | form htag =>
    have hstring : ∀ tag ∈ formTags, ∀ k ∈ typedKeywords, k.1 = tag → "string" ∈ k.2 := by decide
    exact ⟨"string", hstring _ htag keyword hkeyword hkey, type_of_gate_string hgate⟩
  | count htag =>
    have harray : ∀ tag ∈ countTags, ∀ k ∈ typedKeywords, k.1 = tag → "array" ∈ k.2 := by decide
    exact ⟨"array", harray _ htag keyword hkeyword hkey, type_of_gate_array hgate⟩
  | default =>
    exact absurd hkey ((by decide : ∀ k ∈ typedKeywords, k.1 ≠ defaultTag) _ hkeyword)
  | extension =>
    have hhead : ∀ k ∈ typedKeywords, k.1.toList.head? ≠ some 'x' := by decide
    exact absurd (by rw [hkey, toList_extensionKey]; rfl) (hhead keyword hkeyword)

/-- Turning a number into an integer keeps the shape. -/
theorem Shape.set_integer {node : Node} (h : Shape node)
    (htype : Dict.get? "type" node = some (.str "number") ∨
      Dict.get? "type" node = some (.str "integer")) :
    Shape (Dict.set "type" (.str "integer") node) := by
  have hmem : "type" ∈ Dict.keys node := by
    rcases htype with htype | htype <;> exact Dict.mem_keys_of_get?_eq_some htype
  have hkeys : Dict.keys (Dict.set "type" (.str "integer") node) = Dict.keys node := by
    rw [Dict.keys_set, if_pos hmem]
  have hget : ∀ key, key ≠ "type" →
      Dict.get? key (Dict.set "type" (.str "integer") node) = Dict.get? key node :=
    fun key hkey ↦ by rw [Dict.get?_set, if_neg (Ne.symm hkey)]
  exact
    { distinct := hkeys ▸ h.distinct
      known := hkeys ▸ h.known
      typed := by
        intro keyword hkeyword hkey
        rw [hkeys] at hkey
        obtain ⟨name, hname, hold⟩ := h.typed keyword hkeyword hkey
        have hnumeric : ∀ keyword ∈ typedKeywords, "number" ∈ keyword.2 → "integer" ∈ keyword.2 := by
          decide
        refine ⟨"integer", ?_, Dict.get?_set_self _ _ _⟩
        rcases htype with htype | htype
        · obtain rfl : name = "number" := by simpa using hold.symm.trans htype
          exact hnumeric keyword hkeyword hname
        · obtain rfl : name = "integer" := by simpa using hold.symm.trans htype
          exact hname
      type_iff := hkeys ▸ h.type_iff
      enum := by
        rw [hget "enum" (by decide), hkeys]
        exact h.enum
      object := by
        rw [Dict.get?_set_self]
        intro hobject
        simp at hobject
      items := by
        rw [hget "items" (by decide)]
        exact h.items
      properties := by
        rw [hget "properties" (by decide)]
        exact h.properties
      required := by
        rw [hget "required" (by decide), hget "properties" (by decide)]
        exact h.required }

/-- Setting a field that is neither a type nor part of the structure keeps the shape, if the
field is known and its type is right. -/
theorem Shape.set_other {node : Node} {key : String} (h : Shape node) (hkey : key ≠ "type")
    (hbuilt : key ∉ builtKeys) (hknown : key ∈ keywords ∨ ∃ tag, key = "x-" ++ tag)
    (htyped : ∀ keyword ∈ typedKeywords, keyword.1 = key →
      ∃ name ∈ keyword.2, Dict.get? "type" node = some (.str name)) (value : Json) :
    Shape (Dict.set key value node) := by
  have hne : ∀ other ∈ "type" :: builtKeys, key ≠ other := by
    intro other hother heq
    rcases List.mem_cons.mp hother with rfl | hmem
    · exact hkey heq
    · exact hbuilt (heq ▸ hmem)
  have hget : ∀ other ∈ "type" :: builtKeys,
      Dict.get? other (Dict.set key value node) = Dict.get? other node :=
    fun other hother ↦ by rw [Dict.get?_set, if_neg (hne other hother)]
  have hmem : ∀ other ∈ "type" :: builtKeys,
      (other ∈ Dict.keys (Dict.set key value node) ↔ other ∈ Dict.keys node) :=
    fun other hother ↦ by rw [Dict.mem_keys_set, or_iff_right (hne other hother).symm]
  exact
    { distinct := Dict.nodup_keys_set h.distinct
      known := by
        intro other hother
        rcases Dict.mem_keys_set.mp hother with rfl | hold
        · exact hknown
        · exact h.known other hold
      typed := by
        intro keyword hkeyword hother
        rw [hget "type" (by decide)]
        rcases Dict.mem_keys_set.mp hother with heq | hold
        · exact htyped keyword hkeyword heq
        · exact h.typed keyword hkeyword hold
      type_iff := by
        rw [hmem "type" (by decide), hmem "enum" (by decide)]
        exact h.type_iff
      enum := by
        rw [hget "enum" (by decide), hmem "const" (by decide)]
        exact h.enum
      object := by
        rw [hget "type" (by decide), hmem "properties" (by decide)]
        exact h.object
      items := by
        rw [hget "items" (by decide)]
        exact h.items
      properties := by
        rw [hget "properties" (by decide)]
        exact h.properties
      required := by
        rw [hget "required" (by decide), hget "properties" (by decide)]
        exact h.required }

theorem Shape.set_of_admits {node : Node} {tags : Dict String} {gate : Gate} {key : String}
    {value : Json} (h : Shape node) (hgate : Constraint.gate (Dict.get? "type" node) = .ok gate)
    (hadmits : Admits tags gate key value) : Shape (Dict.set key value node) := by
  by_cases hkey : key = "type"
  · subst hkey
    obtain ⟨rfl, rfl⟩ := hadmits.type_eq
    exact h.set_integer (type_of_gate_numeric hgate)
  · refine h.set_other hkey (fun hbuilt ↦ not_admits_builtKey hbuilt value hadmits)
      (known_of_admits hadmits) (fun keyword hkeyword heq ↦ ?_) value
    exact typed_of_admits hgate (heq ▸ hadmits) hkeyword

/-- A pass keeps the shape, its gate being the one that it finds. -/
theorem shape_of_applied {base node : Node} {tags : Dict String} {description : Option String}
    {gate : Gate} (hgate : Constraint.gate (Dict.get? "type" base) = .ok gate)
    (hnode : (applied base tags description).outcome = .ok node) (h : Shape base) :
    Shape node := by
  have hkept : Shape node ∧ Constraint.gate (Dict.get? "type" node) = .ok gate :=
    applied_induction
      (P := fun current ↦ Shape current ∧ Constraint.gate (Dict.get? "type" current) = .ok gate)
      hgate
      (fun _ _ _ hadmits hcurrent ↦
        ⟨hcurrent.1.set_of_admits hcurrent.2 hadmits, hadmits.gate_set hcurrent.2⟩)
      ⟨h, hgate⟩ hnode
  exact hkept.1

end Node

/-- Every node of a compiled schema, at any depth, has the shape. -/
theorem TypeModel.compile_shape {τ ι : Type} [BEq ι] (model : TypeModel τ ι) (type : τ)
    (node : Node) (h : (model.compile type).outcome = .ok node) :
    Node.Everywhere Node.Shape node := by
  obtain ⟨-, -, hunder⟩ := Logged.bind_eq_ok_iff.mp h
  exact compileUnder_everywhere Node.shape_of_built Node.shape_of_applied hunder

namespace Scripted

/-- An order has amounts, which are numbers that are turned into integers and then get a bound
as a member, and a state out of two. -/
def orderTable : Table :=
  [{ name := "Order", flags := [.object], symbol := some ⟨"Order", ["An order."], []⟩,
     members := [⟨"first", 1, false, some ⟨"first", [], [⟨"minimum", ["1"]⟩]⟩⟩,
       ⟨"all", 2, false, none⟩, ⟨"state", 3, true, some ⟨"state", [], [⟨"unit", ["n"]⟩]⟩⟩] },
   { name := "Amount", flags := [.number],
     symbol := some ⟨"Amount", [], [⟨"integer", []⟩, ⟨"minLength", ["3"]⟩]⟩ },
   { name := "Amount[]", flags := [.object], isArray := true, element := some 1 },
   { name := "State", flags := [.enumLike, .union], union := [4, 5] },
   { name := "open", flags := [.stringLiteral], value := .str "open" },
   { name := "done", flags := [.stringLiteral], value := .str "done" }]

def amountNode : Node := [("type", .str "integer")]

def orderNode : Node :=
  [("type", .str "object"),
    ("properties", .obj [("first", .obj (amountNode ++ [("minimum", .int 1)])),
      ("all", .obj [("type", .str "array"), ("items", .obj amountNode)]),
      ("state", .obj [("enum", .arr [.str "open", .str "done"]), ("x-unit", .str "n")])]),
    ("required", .arr [.str "first", .str "all"]), ("description", .str "An order.")]

theorem compile_shape_order :
    ((model orderTable).compile 0).outcome = .ok orderNode ∧ Node.Shape orderNode ∧
      Node.Shape (amountNode ++ [("minimum", .int 1)]) ∧ Node.Shape amountNode := by
  have horder : ((model orderTable).compile 0).outcome = .ok orderNode := rfl
  have hshape := TypeModel.compile_shape (model orderTable) 0 orderNode horder
  have hfirst : Node.Child orderNode (amountNode ++ [("minimum", .int 1)]) :=
    .property rfl List.mem_cons_self
  have hall : Node.Child orderNode [("type", .str "array"), ("items", .obj amountNode)] :=
    .property rfl (List.mem_cons_of_mem _ List.mem_cons_self)
  exact ⟨horder, hshape _ .refl, hshape _ (.single hfirst),
    hshape _ ((Relation.ReflTransGen.single hall).tail (.item rfl))⟩

end Scripted

end Schematic
