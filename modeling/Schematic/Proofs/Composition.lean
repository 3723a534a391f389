import Schematic.Proofs.Answers

/-!
# Compilation is compositional

Open structs can only turn a success into a recursion error, and a smaller bound on the
nesting can only turn it into a failure. So whatever a type compiles to under some open
structs, it compiles to on its own, and the node of a struct or an array is put together
from what the types of its parts compile to on their own.
-/

namespace Schematic

namespace TypeModel

variable {τ ι : Type} [BEq ι]

theorem isOpen_append {active : Open ι} {entry : ι × String} {identity : ι} :
    IsOpen (active ++ [entry]) identity ↔
      IsOpen active identity ∨ (entry.1 == identity) = true := by
  simp [IsOpen]

/-- Entering a type keeps what is open below it. -/
theorem isOpen_enter_mono (model : TypeModel τ ι) {active active' : Open ι}
    (hactive : ∀ identity, IsOpen active identity → IsOpen active' identity) (type : τ)
    (category : Category) (identity : ι) (h : IsOpen (model.enter active type category) identity) :
    IsOpen (model.enter active' type category) identity := by
  cases category with
  | object => exact isOpen_append.mpr ((isOpen_append.mp h).imp_left (hactive identity))
  | _ => exact hactive identity h

/-- A node that is compiled under open structs is compiled under fewer of them, too, and with
any larger bound on the nesting. -/
theorem compileUnder_of_subpath {model : TypeModel τ ι} {depth depth' : Nat}
    {active active' : Open ι} {type : τ} {node : Node} (hdepth : depth ≤ depth')
    (hactive : ∀ identity, IsOpen active' identity → IsOpen active identity)
    (h : (model.compileUnder depth active type).outcome = .ok node) :
    (model.compileUnder depth' active' type).outcome = .ok node := by
  -- The larger bound decreases with the smaller one, and a struct is entered in both runs.
  induction depth generalizing depth' active active' type node with
  | zero => simp [compileUnder] at h
  | succ depth ih =>
    obtain ⟨deeper, rfl⟩ : ∃ deeper, depth' = deeper + 1 := ⟨depth' - 1, by omega⟩
    obtain ⟨tags, category, base, htags, hcategory, hopen, hbase, hnode⟩ :=
      compileUnder_succ_eq_ok_iff.mp h
    refine compileUnder_succ_eq_ok_iff.mpr ⟨tags, category, base, htags, hcategory,
      fun hobject hactive' ↦ hopen hobject (hactive _ hactive'), ?_, hnode⟩
    exact hbase.mono fun part node hpart ↦
      ih (by omega) (isOpen_enter_mono model hactive type category) hpart

theorem not_isOpen_nil (identity : ι) : ¬ IsOpen ([] : Open ι) identity := by
  simp [IsOpen]

/-- What a type compiles to under open structs, it compiles to on its own. -/
theorem compile_of_compileUnder {model : TypeModel τ ι} {depth : Nat} {active : Open ι}
    {type : τ} {node : Node} (hdepth : depth ≤ model.depth type)
    (h : (model.compileUnder depth active type).outcome = .ok node) :
    (model.compile type).outcome = .ok node := by
  rw [outcome_compile]
  exact compileUnder_of_subpath hdepth
    (fun identity hidentity ↦ absurd hidentity (not_isOpen_nil identity)) h

/-- A type compiles on its own as it does with nothing open. -/
theorem compile_eq_ok_iff {model : TypeModel τ ι} {type : τ} {node : Node} :
    (model.compile type).outcome = .ok node ↔
      (model.compileUnder (model.depth type) [] type).outcome = .ok node := by
  rw [outcome_compile]

/-! ## The properties of a struct -/

omit [BEq ι] in
theorem forall₂_kept {model : TypeModel τ ι} {compiled : τ → Node → Prop}
    {members : List (Member τ)} {properties : List (Option Property)}
    (h : List.Forall₂ (MemberBuilt model compiled) members properties) :
    List.Forall₂ (fun member property ↦ MemberBuilt model compiled member (some property))
      (members.filter fun member ↦ !Symbol.hasTag Constraint.ignoreTag member.symbol)
      (properties.filterMap id) := by
  induction h with
  | nil => exact .nil
  | cons hmember hrest ih =>
    cases hmember with
    | ignored htags hignored hoptional => simpa [hignored] using ih
    | kept htags hignored hoptional hnode hresult =>
      simpa [hignored] using
        List.Forall₂.cons (.kept htags hignored hoptional hnode hresult) ih

omit [BEq ι] in
/-- The properties have the names of the members. -/
theorem names_of_forall₂ {model : TypeModel τ ι} {compiled : τ → Node → Prop}
    {members : List (Member τ)} {properties : List Property}
    (h : List.Forall₂ (fun member property ↦ MemberBuilt model compiled member (some property))
      members properties) :
    properties.map Property.name = members.map Member.name := by
  refine map_eq_of_forall₂ h fun member property hmember ↦ ?_
  cases hmember
  rfl

end TypeModel

namespace Scripted

open TypeModel

/-- The required properties are those of members that are not optional. -/
theorem required_of_forall₂ {table : Table} {compiled : Nat → Node → Prop}
    {members : List (Member Nat)} {properties : List Property}
    (h : List.Forall₂
      (fun member property ↦ MemberBuilt (model table) compiled member (some property))
      members properties) :
    (properties.filter Property.required).map Property.name =
      (members.filter fun member ↦ !isOptional table member).map Member.name := by
  induction h with
  | nil => rfl
  | @cons member property members properties hmember hrest ih =>
    cases hmember with
    | kept htags hignored hoptional hnode hresult =>
      rw [model_isOptional, Except.ok.injEq] at hoptional
      subst hoptional
      cases hrequired : isOptional table member <;> simp [hrequired, ih]

/-- A struct's node, put together from what the types of its members compile to on their own. -/
structure ObjectComposed (table : Table) (type : Nat) (fields : Dict Json) (node : Node) : Prop where
  member : ∀ member ∈ keptMembers table type, ∃ tags alone schema,
    Symbol.tagTextsOf member.symbol = .ok tags ∧
      ((model table).compile member.type).outcome = .ok alone ∧
      (Constraint.applied alone tags (Symbol.descriptionOf member.symbol)).outcome = .ok schema ∧
      Dict.get? member.name fields = some (.obj schema)
  names : Dict.keys fields = (keptMembers table type).map Member.name
  documented : ∃ tags, Symbol.tagTextsOf (record table type).symbol = .ok tags ∧
    (Constraint.applied (objectNode fields (requiredNames table type)) tags
      (Symbol.descriptionOf (record table type).symbol)).outcome = .ok node
  properties : Dict.get? "properties" node = some (.obj fields)
  required : Dict.get? "required" node =
    if requiredNames table type = [] then none else some (.strings (requiredNames table type))

/-- An array's node, put together from what its element type compiles to on its own. -/
structure ArrayComposed (table : Table) (type element : Nat) (items node : Node) : Prop where
  element : ((model table).compile element).outcome = .ok items
  documented : ∃ tags, Symbol.tagTextsOf (record table type).symbol = .ok tags ∧
    (Constraint.applied [("type", .str "array"), ("items", .obj items)] tags
      (Symbol.descriptionOf (record table type).symbol)).outcome = .ok node
  items : Dict.get? "items" node = some (.obj items)

/-- The bound on the nesting is the same for all types of a table. -/
theorem compile_of_part {table : Table} {depth : Nat} {active : Open Nat} {type : Nat}
    {node : Node} (hdepth : depth ≤ nesting table)
    (h : ((model table).compileUnder depth active type).outcome = .ok node) :
    ((model table).compile type).outcome = .ok node :=
  compile_of_compileUnder hdepth h

/-- Constraints leave the keys alone that a category builds. -/
theorem get?_builtKey {table : Table} {type : Nat} {base node : Node} {tags : Dict String}
    {compiled : Nat → Node → Prop} {category : Category} {description : Option String}
    (hbase : Built (model table) compiled type category base)
    (hnode : (Constraint.applied base tags description).outcome = .ok node) {key : String}
    (hkey : key ∈ Constraint.builtKeys) : Dict.get? key node = Dict.get? key base := by
  obtain ⟨gate, hgate⟩ := hbase.exists_gate
  exact Constraint.get?_applied_builtKey hkey hgate hnode

/-- A struct's node is put together from nodes of its members' types. -/
theorem objectComposed_of_built {table : Table} {depth : Nat} {active : Open Nat} {type : Nat}
    {base node : Node} {tags : Dict String} (hdepth : depth ≤ nesting table)
    (hnames : ((record table type).members.map Member.name).Nodup)
    (hbase : Built (model table)
      (fun part node ↦ ((model table).compileUnder depth active part).outcome = .ok node) type
      .object base)
    (htags : Symbol.tagTextsOf (record table type).symbol = .ok tags)
    (hnode : (Constraint.applied base tags
      (Symbol.descriptionOf (record table type).symbol)).outcome = .ok node) :
    ∃ fields, ObjectComposed table type fields node := by
  have hkey : ∀ key ∈ Constraint.builtKeys, Dict.get? key node = Dict.get? key base :=
    fun _ ↦ get?_builtKey hbase hnode
  cases hbase with
  | @object members properties hmembers hproperties =>
    obtain rfl := model_members hmembers
    have hkept := forall₂_kept hproperties
    have hkeptNames := names_of_forall₂ hkept
    have hrequired := required_of_forall₂ hkept
    change (properties.filterMap id).map Property.name = (keptMembers table type).map _
      at hkeptNames
    change _ = requiredNames table type at hrequired
    have hdistinct : ((properties.filterMap id).map Property.name).Nodup := by
      rw [hkeptNames]
      exact hnames.sublist (List.filter_sublist.map _)
    have hfields : Dict.ofList ((properties.filterMap id).map fun property ↦
        (property.name, Json.obj property.schema)) =
        (properties.filterMap id).map fun property ↦ (property.name, Json.obj property.schema) :=
      Dict.ofList_of_nodup (by simpa [Function.comp_def] using hdistinct)
    have hstruct : structNode (properties.filterMap id) = objectNode
        ((properties.filterMap id).map fun property ↦ (property.name, Json.obj property.schema))
        (requiredNames table type) := by
      rw [structNode_eq, hfields, hrequired]
    rw [hstruct] at hnode hkey
    refine ⟨(properties.filterMap id).map fun property ↦ (property.name, .obj property.schema),
      ?_, ?_, ⟨tags, htags, hnode⟩, ?_, ?_⟩
    · intro member hmember
      obtain ⟨property, hproperty, hbuilt⟩ := Outcome.exists_of_mem_left hkept hmember
      cases hbuilt with
      | @kept memberTags optional alone schema hmemberTags hignored hoptional halone hschema =>
        refine ⟨memberTags, alone, schema, hmemberTags, compile_of_part hdepth halone, hschema, ?_⟩
        refine Dict.get?_eq_some_of_mem (by simpa [Dict.keys, Function.comp_def] using hdistinct) ?_
        exact List.mem_map_of_mem hproperty
    · simpa [Dict.keys, Function.comp_def] using hkeptNames
    · rw [hkey "properties" (by decide), get?_objectNode_properties]
    · rw [hkey "required" (by decide), get?_objectNode_required]
      simp only [List.isEmpty_iff]

/-- Structs and arrays are compiled from the stand-alone nodes of their parts, and no path of open
structs influences a node that is returned. -/
theorem compile_compositional (table : Table) (type : Nat) (node : Node)
    (h : ((model table).compile type).outcome = .ok node) :
    ((model table).classify type = .ok .object →
      ((record table type).members.map Member.name).Nodup →
        ∃ fields, ObjectComposed table type fields node) ∧
    ((model table).classify type = .ok .array → ∀ element,
      (record table type).element = some element →
        ∃ items, ArrayComposed table type element items node) ∧
    ∀ depth ≤ nesting table, ∀ active part result,
      ((model table).compileUnder depth active part).outcome = .ok result →
        ((model table).compile part).outcome = .ok result := by
  have hunder : ((model table).compileUnder (nesting table) [] type).outcome = .ok node :=
    compile_eq_ok_iff.mp h
  obtain ⟨tags, category, base, htags, hcategory, -, hbase, hnode⟩ :=
    compileUnder_succ_eq_ok_iff.mp hunder
  have hdepth : (table.length + 1) * (table.length + 1) ≤ nesting table := Nat.le_succ _
  refine ⟨fun hobject hnames ↦ ?_, fun harray element helement ↦ ?_,
    fun depth hle active part result hresult ↦ compile_of_part hle hresult⟩
  · obtain rfl : category = .object := Except.ok.inj (hcategory.symm.trans hobject)
    exact objectComposed_of_built hdepth hnames hbase htags hnode
  · obtain rfl : category = .array := Except.ok.inj (hcategory.symm.trans harray)
    have hkey : ∀ key ∈ Constraint.builtKeys, Dict.get? key node = Dict.get? key base :=
      fun _ ↦ get?_builtKey hbase hnode
    have hitems := hkey "items" (by decide)
    cases hbase with
    | bareArray hnone => cases hnone.symm.trans helement
    | @array element' items hsome halone =>
      obtain rfl : element' = element := Option.some.inj (hsome.symm.trans helement)
      exact ⟨items, compile_of_part hdepth halone, ⟨tags, htags, hnode⟩, hitems⟩

/-- A person has a home and a work address of one shared struct, and an ignored boss, who is a
person. -/
def personTable : Table :=
  [{ name := "Person", flags := [.object],
     symbol := some ⟨"Person", ["A ", "person."], [⟨"default", ["null"]⟩]⟩,
     members := [⟨"home", 1, false, some ⟨"home", [], [⟨"since", ["2"]⟩]⟩⟩,
       ⟨"work", 1, true, none⟩, ⟨"boss", 0, true, some ⟨"boss", [], [⟨"ignore", []⟩]⟩⟩,
       ⟨"former", 2, false, some ⟨"former", [], [⟨"minItems", ["1"]⟩]⟩⟩] },
   { name := "Address", flags := [.object], members := [⟨"zip", 3, false, none⟩] },
   { name := "Address[]", flags := [.object], isArray := true, element := some 1 },
   { name := "string", flags := [.string] }]

def addressNode : Node :=
  [("type", .str "object"), ("properties", .obj [("zip", .obj [("type", .str "string")])]),
    ("required", .arr [.str "zip"])]

def personNode : Node :=
  [("type", .str "object"),
    ("properties", .obj
      [("home", .obj (addressNode ++ [("x-since", .int 2)])), ("work", .obj addressNode),
        ("former", .obj [("type", .str "array"), ("items", .obj addressNode),
          ("minItems", .int 1)])]),
    ("required", .arr [.str "home", .str "former"]), ("description", .str "A person."),
    ("default", .null)]

theorem compile_compositional_person :
    ((model personTable).compile 0).outcome = .ok personNode ∧
      (∃ fields, ObjectComposed personTable 0 fields personNode) ∧
      ∃ items node, ArrayComposed personTable 2 1 items node := by
  have hperson : ((model personTable).compile 0).outcome = .ok personNode := rfl
  have harray : ((model personTable).compile 2).outcome =
    .ok [("type", .str "array"), ("items", .obj addressNode)] := rfl
  have hcomposed := compile_compositional personTable 0 personNode hperson
  have hcomposedArray := compile_compositional personTable 2 _ harray
  refine ⟨hperson, hcomposed.1 rfl (by decide), ?_⟩
  obtain ⟨items, hitems⟩ := hcomposedArray.2.1 rfl 1 rfl
  exact ⟨items, _, hitems⟩

end Scripted

end Schematic
