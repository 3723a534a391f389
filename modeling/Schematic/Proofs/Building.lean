import Schematic.Model.Compile
import Schematic.Proofs.Outcome
import Schematic.Proofs.Pass

/-!
# What a compilation step does

Compiling a type is one step around the compilations of its parts. The relations of this
module say what a step yields and how it fails, relative to what is known of the parts,
so that a statement about whole compilations is an induction with one case for each way
of building a node.
-/

namespace Schematic.TypeModel

variable {τ ι : Type}

/-- Whether a type of the given identity is open. -/
def IsOpen [BEq ι] (active : Open ι) (identity : ι) : Prop :=
  active.any (fun entry ↦ entry.1 == identity) = true

/-- The structs that are open while the parts of a type are compiled. -/
def enter (model : TypeModel τ ι) (active : Open ι) (type : τ) : Category → Open ι
  | .object => active ++ [(model.identity type, model.render type)]
  | _ => active

/-! ## Classification -/

/-- A category that flags decide is one that the table pairs with a flag that is set. -/
theorem mem_of_categoryOfFlags? {flags : Flags} {category : Category}
    (h : categoryOfFlags? flags = some category) :
    ∃ flag, (flag, category) ∈ flagCategories ∧ flags.contains flag = true := by
  obtain ⟨entry, hentry, rfl⟩ := Option.map_eq_some_iff.mp h
  have hflag : flags.contains entry.1 = true := by
    simpa using List.find?_some hentry
  exact ⟨entry.1, List.mem_of_find?_eq_some hentry, hflag⟩

/-- The categories that are told apart by shape. -/
def shapeCategories : List Category :=
  [.array, .tuple, .object, .intersection, .unsupported]

theorem mem_of_classifyShape {model : TypeModel τ ι} {flags : Flags} {type : τ}
    {category : Category} (h : model.classifyShape flags type = .ok category) :
    category ∈ shapeCategories := by
  obtain ⟨isArray, -, h⟩ := Outcome.bind_eq_ok_iff.mp h
  split at h
  · exact Except.ok.inj h ▸ by decide
  split at h
  · exact Except.ok.inj h ▸ by decide
  split at h
  · exact Except.ok.inj h ▸ by decide
  split at h <;> exact Except.ok.inj h ▸ by decide

/-- One flag decides the category of a type, or it is an enumeration or a union, or its shape
decides. -/
inductive Classified (model : TypeModel τ ι) (type : τ) (flags : Flags) (category : Category) :
    Prop where
  | flag {flag : Flag} (hmem : (flag, category) ∈ flagCategories)
      (hflag : flags.contains flag = true)
  | enum (hcategory : category = .enum) (values : List Json) (value : Json)
      (hvalues : model.enumValues type = .ok (value :: values))
  | union (hcategory : category = .union)
  | shape (hshape : model.classifyShape flags type = .ok category)

/-- A category comes about in one of these ways. -/
theorem classified_of_classify {model : TypeModel τ ι} {type : τ} {category : Category}
    (h : model.classify type = .ok category) :
    ∃ flags, model.flags type = .ok flags ∧ Classified model type flags category := by
  obtain ⟨flags, hflags, h⟩ := Outcome.bind_eq_ok_iff.mp h
  have hplain (hcategory : (if flags.contains .union then pure .union
      else model.classifyShape flags type) = Except.ok category) :
      Classified model type flags category := by
    split at hcategory
    · exact .union (Except.ok.inj hcategory).symm
    · exact .shape hcategory
  refine ⟨flags, hflags, ?_⟩
  cases hcategory : categoryOfFlags? flags with
  | some found =>
    simp only [hcategory] at h
    obtain rfl : found = category := Except.ok.inj h
    obtain ⟨flag, hmem, hflag⟩ := mem_of_categoryOfFlags? hcategory
    exact .flag hmem hflag
  | none =>
    simp only [hcategory] at h
    split at h
    · obtain ⟨values, hvalues, h⟩ := Outcome.bind_eq_ok_iff.mp h
      cases values with
      | cons value values => exact .enum (Except.ok.inj h).symm values value hvalues
      | nil => exact hplain h
    · exact hplain h

/-- A type is an enumeration only if its union has a string or number literal. -/
theorem enumValues_of_classify {model : TypeModel τ ι} {type : τ}
    (h : model.classify type = .ok .enum) :
    ∃ value values, model.enumValues type = .ok (value :: values) := by
  obtain ⟨flags, -, hclassified⟩ := classified_of_classify h
  cases hclassified with
  | @flag flag hmem =>
    have hnone : ∀ entry ∈ flagCategories, entry.2 ≠ .enum := by decide
    exact absurd rfl (hnone _ hmem)
  | enum _ values value hvalues => exact ⟨value, values, hvalues⟩
  | union hcategory => cases hcategory
  | shape hshape => exact absurd (mem_of_classifyShape hshape) (by decide)

/-- The categories whose builders ask for a value are those of string and number literals. -/
theorem isTextOrNumber_of_classify {model : TypeModel τ ι} {type : τ} {category : Category}
    (hcategory : model.classify type = .ok category)
    (hliteral : category ∈ [.stringLiteral, .numberLiteral]) :
    ∃ flags, model.flags type = .ok flags ∧ flags.isTextOrNumber = true := by
  obtain ⟨flags, hflags, hclassified⟩ := classified_of_classify hcategory
  refine ⟨flags, hflags, ?_⟩
  cases hclassified with
  | @flag flag hmem hflag =>
    have hkinds : ∀ entry ∈ flagCategories, entry.2 ∈ [.stringLiteral, .numberLiteral] →
        entry.1 = .stringLiteral ∨ entry.1 = .numberLiteral := by decide
    rw [Flags.isTextOrNumber, Bool.or_eq_true]
    rcases hkinds _ hmem hliteral with rfl | rfl
    · exact .inl hflag
    · exact .inr hflag
  | enum hother => exact absurd hliteral (hother ▸ by decide)
  | union hother => exact absurd hliteral (hother ▸ by decide)
  | shape hshape =>
    have hshapes : ∀ category ∈ shapeCategories, category ∉ [.stringLiteral, .numberLiteral] := by
      decide
    exact absurd hliteral (hshapes _ (mem_of_classifyShape hshape))

section

variable {model : TypeModel τ ι} {type : τ} {flags : Flags}

theorem classify_of_category {category : Category} (hflags : model.flags type = .ok flags)
    (hcategory : categoryOfFlags? flags = some category) : model.classify type = .ok category := by
  rw [classify, hflags, Outcome.ok_bind, hcategory]
  rfl

theorem enumValues_of_union (hflags : model.flags type = .ok flags)
    (hunion : flags.contains .union = true) :
    model.enumValues type = model.textAndNumberValues (model.unionMembers type) := by
  rw [enumValues, hflags, Outcome.ok_bind, if_pos hunion]

theorem classify_of_noUnion (hflags : model.flags type = .ok flags)
    (hcategory : categoryOfFlags? flags = none) (hunion : flags.contains .union = false) :
    model.classify type = model.classifyShape flags type := by
  have hvalues : model.enumValues type = .ok [] := by
    rw [enumValues, hflags, Outcome.ok_bind, hunion]
    rfl
  rw [classify, hflags, Outcome.ok_bind, hcategory, hvalues]
  dsimp only
  rw [hunion]
  cases flags.contains .enumLike <;> rfl

theorem classify_of_plainUnion (hflags : model.flags type = .ok flags)
    (hcategory : categoryOfFlags? flags = none) (hunion : flags.contains .union = true)
    (hplain : flags.contains .enumLike = false) : model.classify type = .ok .union := by
  rw [classify, hflags, Outcome.ok_bind, hcategory]
  dsimp only
  rw [hplain, hunion]
  rfl

/-- A union of enumeration values is an enumeration unless it has no value. -/
theorem classify_of_enumLike {values : List Json} (hflags : model.flags type = .ok flags)
    (hcategory : categoryOfFlags? flags = none) (hunion : flags.contains .union = true)
    (henum : flags.contains .enumLike = true)
    (hvalues : model.textAndNumberValues (model.unionMembers type) = .ok values) :
    model.classify type = .ok (if values = [] then .union else .enum) := by
  rw [classify, hflags, Outcome.ok_bind, hcategory]
  dsimp only
  rw [henum, hunion, enumValues_of_union hflags hunion, hvalues]
  cases values <;> rfl

end

/-! ## The node of a struct -/

/-- A struct's node with the given fields and required names. -/
def objectNode (fields : Dict Json) (required : List String) : Node :=
  [("type", .str "object"), ("properties", .obj fields)] ++
    if required.isEmpty then [] else [("required", .strings required)]

theorem structNode_eq (properties : List Property) :
    structNode properties =
      objectNode
        (Dict.ofList (properties.map fun property ↦ (property.name, Json.obj property.schema)))
        ((properties.filter Property.required).map Property.name) := rfl

theorem get?_objectNode_type (fields : Dict Json) (required : List String) :
    Dict.get? "type" (objectNode fields required) = some (.str "object") := rfl

theorem get?_objectNode_properties (fields : Dict Json) (required : List String) :
    Dict.get? "properties" (objectNode fields required) = some (.obj fields) := rfl

/-- Nothing is listed where no member is required. -/
theorem get?_objectNode_required (fields : Dict Json) (required : List String) :
    Dict.get? "required" (objectNode fields required) =
      if required.isEmpty then none else some (.strings required) := by
  cases required <;> rfl

theorem keys_objectNode (fields : Dict Json) (required : List String) :
    Dict.keys (objectNode fields required) =
      ["type", "properties"] ++ if required.isEmpty then [] else ["required"] := by
  cases required <;> rfl

theorem nodup_keys_objectNode (fields : Dict Json) (required : List String) :
    (Dict.keys (objectNode fields required)).Nodup := by
  rw [keys_objectNode]
  split <;> decide

theorem get?_objectNode_eq_none {fields : Dict Json} {required : List String} {key : String}
    (hkey : key ∉ ["type", "properties", "required"]) :
    Dict.get? key (objectNode fields required) = none := by
  rw [Dict.get?_eq_none_iff, keys_objectNode]
  cases required <;> simp_all

/-- A struct that is open is refused with the names on the path to it and its own. -/
theorem build_object_of_open [Room] [BEq ι] (model : TypeModel τ ι)
    {compileType : Open ι → τ → Logged Node} {active : Open ι} {type : τ}
    (hopen : IsOpen active (model.identity type)) :
    model.build compileType active type .object = .fail (.ofError (.recursive (model.render type)
      (active.map Prod.snd ++ [model.render type]))) :=
  if_pos hopen

/-- A struct that is not open is built from what its members compile to. -/
theorem build_object_of_closed [Room] [BEq ι] (model : TypeModel τ ι)
    {compileType : Open ι → τ → Logged Node} {active : Open ι} {type : τ}
    (hclosed : ¬ IsOpen active (model.identity type)) :
    model.build compileType active type .object = (do
      let members ← model.members type
      let properties ← members.mapM
        (model.compileMember (compileType (model.enter active type .object)) (model.render type))
      pure (structNode (properties.filterMap id))) :=
  if_neg hclosed

/-! ## Outcomes -/

/-- Members are compiled alike if only their types differ and these are compiled alike. -/
theorem outcome_compileMember_congr {model model' : TypeModel τ ι}
    {compileType compileType' : τ → Logged Node} {member member' : Member τ}
    (hname : member'.name = member.name) (hsymbol : member'.symbol = member.symbol)
    (hoptional : model'.isOptional member' = model.isOptional member)
    (hcompile : (compileType' member'.type).outcome = (compileType member.type).outcome)
    (typeName : String) :
    (model'.compileMember compileType' typeName member').outcome =
      (model.compileMember compileType typeName member).outcome := by
  unfold compileMember
  rw [hname, hsymbol, hoptional]
  simp only [Logged.outcome_bind]
  congr 1
  funext tags
  congr 1
  funext optional
  split
  · rfl
  · simp only [Logged.outcome_bind, hcompile]

/-- Compilation starts with no struct open and with fuel for the depth of the type. -/
theorem outcome_compile [Stack] [BEq ι] (model : TypeModel τ ι) (type : τ) :
    (model.compile type).outcome = (model.compileUnder (model.depth type) [] type).outcome := by
  rw [compile, Logged.outcome_bind, Logged.outcome_record, Outcome.ok_bind]

/-! ## Success -/

/-- What compiling a member yields, relative to how types are compiled. -/
inductive MemberBuilt (model : TypeModel τ ι) (compiled : τ → Node → Prop) (member : Member τ) :
    Option Property → Prop where
  | ignored {tags : Dict String} (htags : Symbol.tagTextsOf member.symbol = .ok tags)
      (hignored : Symbol.hasTag Constraint.ignoreTag member.symbol = true)
      (hoptional : model.isOptional member = .ok true) : MemberBuilt model compiled member none
  | kept {tags : Dict String} {optional : Bool} {node result : Node}
      (htags : Symbol.tagTextsOf member.symbol = .ok tags)
      (hignored : Symbol.hasTag Constraint.ignoreTag member.symbol = false)
      (hoptional : model.isOptional member = .ok optional) (hnode : compiled member.type node)
      (hresult : (Constraint.applied node tags
        (Symbol.descriptionOf member.symbol)).outcome = .ok result) :
      MemberBuilt model compiled member (some ⟨member.name, result, !optional⟩)

/-- The nodes that are built for a type of a category, relative to how types are compiled. -/
inductive Built (model : TypeModel τ ι) (compiled : τ → Node → Prop) (type : τ) :
    Category → Node → Prop where
  | string : Built model compiled type .string [("type", .str "string")]
  | stringLiteral {value : Json} (hvalue : model.literal type = .ok value) :
      Built model compiled type .stringLiteral [("type", .str "string"), ("const", value)]
  | number : Built model compiled type .number [("type", .str "number")]
  | numberLiteral {value : Json} (hvalue : model.literal type = .ok value) :
      Built model compiled type .numberLiteral [("type", .str "number"), ("const", value)]
  | boolean : Built model compiled type .boolean [("type", .str "boolean")]
  | booleanLiteral : Built model compiled type .booleanLiteral
      [("type", .str "boolean"), ("const", .bool (model.isTrueLiteral type))]
  | null : Built model compiled type .null [("type", .str "null")]
  | undefined : Built model compiled type .undefined [("type", .str "null")]
  | enum {values : List Json} (hvalues : model.enumValues type = .ok values) :
      Built model compiled type .enum [("enum", .arr values)]
  | union {value : Json} {values : List Json}
      (hvalues : model.literalValues (model.unionMembers type) = .ok (some (value :: values))) :
      Built model compiled type .union [("enum", .arr (value :: values))]
  | bareArray (helement : model.element? type = none) :
      Built model compiled type .array [("type", .str "array")]
  | array {element : τ} {items : Node} (helement : model.element? type = some element)
      (hitems : compiled element items) :
      Built model compiled type .array [("type", .str "array"), ("items", .obj items)]
  | object {members : List (Member τ)} {properties : List (Option Property)}
      (hmembers : (model.members type).outcome = .ok members)
      (hproperties : List.Forall₂ (MemberBuilt model compiled) members properties) :
      Built model compiled type .object (structNode (properties.filterMap id))

/-- Compiling a member succeeds exactly with what is built for it. -/
theorem compileMember_eq_ok_iff {model : TypeModel τ ι} {compileType : τ → Logged Node}
    {typeName : String} {member : Member τ} {property : Option Property} :
    (model.compileMember compileType typeName member).outcome = .ok property ↔
      MemberBuilt model (fun type node ↦ (compileType type).outcome = .ok node) member
        property := by
  constructor
  · intro h
    simp only [compileMember, Logged.bind_eq_ok_iff, Logged.outcome_lift] at h
    obtain ⟨tags, htags, optional, hoptional, h⟩ := h
    rw [Symbol.contains_tagTextsOf htags] at h
    split at h
    · rename_i hignored
      cases optional with
      | false => simp at h
      | true =>
        simp only [if_true, Logged.bind_eq_ok_iff, Logged.outcome_pure, Except.ok.injEq] at h
        obtain ⟨-, -, rfl⟩ := h
        exact .ignored htags hignored hoptional
    · rename_i hignored
      simp only [Logged.bind_eq_ok_iff, Logged.outcome_pure, Except.ok.injEq] at h
      obtain ⟨node, hnode, result, hresult, rfl⟩ := h
      exact .kept htags (by simpa using hignored) hoptional hnode hresult
  · intro h
    simp only [compileMember, Logged.bind_eq_ok_iff, Logged.outcome_lift]
    cases h with
    | @ignored tags htags hignored hoptional =>
      refine ⟨tags, htags, true, hoptional, ?_⟩
      rw [Symbol.contains_tagTextsOf htags, hignored]
      rfl
    | @kept tags optional node result htags hignored hoptional hnode hresult =>
      refine ⟨tags, htags, optional, hoptional, ?_⟩
      rw [Symbol.contains_tagTextsOf htags, hignored]
      simp only [Bool.false_eq_true, if_false, Logged.bind_eq_ok_iff]
      exact ⟨node, hnode, result, hresult, rfl⟩

theorem buildUnion_eq_ok_iff {model : TypeModel τ ι} {type : τ} {node : Node} :
    (model.buildUnion type).outcome = .ok node ↔
      ∃ value values, model.literalValues (model.unionMembers type) = .ok (some (value :: values)) ∧
        node = [("enum", .arr (value :: values))] := by
  simp only [buildUnion, Logged.bind_eq_ok_iff, Logged.outcome_lift]
  constructor
  · rintro ⟨values?, hvalues, h⟩
    match values?, hvalues, h with
    | some (value :: values), hvalues, h => exact ⟨value, values, hvalues, by simpa [eq_comm] using h⟩
    | some [], _, h => simp [reject] at h
    | none, _, h => simp [reject] at h
  · rintro ⟨value, values, hvalues, rfl⟩
    exact ⟨some (value :: values), hvalues, rfl⟩

/-- What is built for a type is built from its parts, and a struct was not open. -/
theorem built_of_build [BEq ι] {model : TypeModel τ ι} {compileType : Open ι → τ → Logged Node}
    {active : Open ι} {type : τ} {category : Category} {node : Node}
    (h : (model.build compileType active type category).outcome = .ok node) :
    (category = .object → ¬ IsOpen active (model.identity type)) ∧
      Built model
        (fun part node ↦ (compileType (model.enter active type category) part).outcome = .ok node)
        type category node := by
  cases category with
  | string =>
    obtain rfl : _ = node := Except.ok.inj h
    exact ⟨nofun, .string⟩
  | stringLiteral =>
    simp only [build, Logged.bind_eq_ok_iff, Logged.outcome_lift, Logged.outcome_pure,
      Except.ok.injEq] at h
    obtain ⟨value, hvalue, rfl⟩ := h
    exact ⟨nofun, .stringLiteral hvalue⟩
  | number =>
    obtain rfl : _ = node := Except.ok.inj h
    exact ⟨nofun, .number⟩
  | numberLiteral =>
    simp only [build, Logged.bind_eq_ok_iff, Logged.outcome_lift, Logged.outcome_pure,
      Except.ok.injEq] at h
    obtain ⟨value, hvalue, rfl⟩ := h
    exact ⟨nofun, .numberLiteral hvalue⟩
  | boolean =>
    obtain rfl : _ = node := Except.ok.inj h
    exact ⟨nofun, .boolean⟩
  | booleanLiteral =>
    obtain rfl : _ = node := Except.ok.inj h
    exact ⟨nofun, .booleanLiteral⟩
  | null =>
    obtain rfl : _ = node := Except.ok.inj h
    exact ⟨nofun, .null⟩
  | undefined =>
    obtain rfl : _ = node := Except.ok.inj h
    exact ⟨nofun, .undefined⟩
  | enum =>
    simp only [build, Logged.bind_eq_ok_iff, Logged.outcome_lift, Logged.outcome_pure,
      Except.ok.injEq] at h
    obtain ⟨values, hvalues, rfl⟩ := h
    exact ⟨nofun, .enum hvalues⟩
  | union =>
    obtain ⟨value, values, hvalues, rfl⟩ := buildUnion_eq_ok_iff.mp h
    exact ⟨nofun, .union hvalues⟩
  | array =>
    cases helement : model.element? type with
    | none =>
      simp only [build, helement, Logged.outcome_pure, Except.ok.injEq] at h
      subst h
      exact ⟨nofun, .bareArray helement⟩
    | some element =>
      simp only [build, helement, Logged.bind_eq_ok_iff, Logged.outcome_pure,
        Except.ok.injEq] at h
      obtain ⟨items, hitems, rfl⟩ := h
      exact ⟨nofun, .array helement hitems⟩
  | object =>
    by_cases hopen : IsOpen active (model.identity type)
    · rw [build_object_of_open model hopen] at h
      cases h
    · simp only [build_object_of_closed model hopen, Logged.bind_eq_ok_iff, Logged.mapM_eq_ok_iff,
        Logged.outcome_pure, Except.ok.injEq, compileMember_eq_ok_iff] at h
      obtain ⟨members, hmembers, properties, hproperties, rfl⟩ := h
      exact ⟨fun _ ↦ hopen, .object hmembers hproperties⟩
  | tuple => simp [build, reject] at h
  | intersection => simp [build, reject] at h
  | unsupported => simp [build, reject] at h

/-- The converse, for a type that may be opened. -/
theorem build_of_built [BEq ι] {model : TypeModel τ ι} {compileType : Open ι → τ → Logged Node}
    {active : Open ι} {type : τ} {category : Category} {node : Node}
    (hopen : category = .object → ¬ IsOpen active (model.identity type))
    (h : Built model
      (fun part node ↦ (compileType (model.enter active type category) part).outcome = .ok node)
      type category node) :
    (model.build compileType active type category).outcome = .ok node := by
  cases h with
  | string => rfl
  | number => rfl
  | boolean => rfl
  | booleanLiteral => rfl
  | null => rfl
  | undefined => rfl
  | stringLiteral hvalue =>
    simp only [build, Logged.bind_eq_ok_iff, Logged.outcome_lift]
    exact ⟨_, hvalue, rfl⟩
  | numberLiteral hvalue =>
    simp only [build, Logged.bind_eq_ok_iff, Logged.outcome_lift]
    exact ⟨_, hvalue, rfl⟩
  | enum hvalues =>
    simp only [build, Logged.bind_eq_ok_iff, Logged.outcome_lift]
    exact ⟨_, hvalues, rfl⟩
  | union hvalues => exact buildUnion_eq_ok_iff.mpr ⟨_, _, hvalues, rfl⟩
  | bareArray helement =>
    simp only [build, helement, Logged.outcome_pure]
  | array helement hitems =>
    simp only [build, helement, Logged.bind_eq_ok_iff]
    exact ⟨_, hitems, rfl⟩
  | object hmembers hproperties =>
    simp only [build_object_of_closed model (hopen rfl), Logged.bind_eq_ok_iff,
      Logged.mapM_eq_ok_iff, compileMember_eq_ok_iff]
    exact ⟨_, hmembers, _, hproperties, rfl⟩

/-- A node is built exactly when a struct is not open and the parts are compiled under it. -/
theorem build_eq_ok_iff [BEq ι] {model : TypeModel τ ι}
    {compileType : Open ι → τ → Logged Node} {active : Open ι} {type : τ} {category : Category}
    {node : Node} :
    (model.build compileType active type category).outcome = .ok node ↔
      (category = .object → ¬ IsOpen active (model.identity type)) ∧
        Built model
          (fun part node ↦ (compileType (model.enter active type category) part).outcome = .ok node)
          type category node :=
  ⟨built_of_build, fun h ↦ build_of_built h.1 h.2⟩

theorem MemberBuilt.mono {model : TypeModel τ ι} {compiled compiled' : τ → Node → Prop}
    (hmono : ∀ type node, compiled type node → compiled' type node) {member : Member τ}
    {property : Option Property} (h : MemberBuilt model compiled member property) :
    MemberBuilt model compiled' member property := by
  cases h with
  | ignored htags hignored hoptional => exact .ignored htags hignored hoptional
  | kept htags hignored hoptional hnode hresult =>
    exact .kept htags hignored hoptional (hmono _ _ hnode) hresult

/-- What is built from the parts of a type depends on what these compile to alone. -/
theorem Built.mono {model : TypeModel τ ι} {compiled compiled' : τ → Node → Prop}
    (hmono : ∀ type node, compiled type node → compiled' type node) {type : τ}
    {category : Category} {node : Node} (h : Built model compiled type category node) :
    Built model compiled' type category node := by
  cases h with
  | string => exact .string
  | stringLiteral hvalue => exact .stringLiteral hvalue
  | number => exact .number
  | numberLiteral hvalue => exact .numberLiteral hvalue
  | boolean => exact .boolean
  | booleanLiteral => exact .booleanLiteral
  | null => exact .null
  | undefined => exact .undefined
  | enum hvalues => exact .enum hvalues
  | union hvalues => exact .union hvalues
  | bareArray helement => exact .bareArray helement
  | array helement hitems => exact .array helement (hmono _ _ hitems)
  | object hmembers hproperties =>
    exact .object hmembers (hproperties.imp fun _ _ hmember ↦ hmember.mono hmono)

/-- Every node is built with a type that can be looked up. -/
theorem Built.exists_gate {model : TypeModel τ ι} {compiled : τ → Node → Prop} {type : τ}
    {category : Category} {node : Node} (h : Built model compiled type category node) :
    ∃ gate, Constraint.gate (Dict.get? "type" node) = .ok gate := by
  cases h with
  | string => exact ⟨.string, rfl⟩
  | stringLiteral hvalue => exact ⟨.string, rfl⟩
  | number => exact ⟨.numeric, rfl⟩
  | numberLiteral hvalue => exact ⟨.numeric, rfl⟩
  | boolean => exact ⟨.other, rfl⟩
  | booleanLiteral => exact ⟨.other, rfl⟩
  | null => exact ⟨.other, rfl⟩
  | undefined => exact ⟨.other, rfl⟩
  | enum hvalues => exact ⟨.other, rfl⟩
  | union hvalues => exact ⟨.other, rfl⟩
  | bareArray helement => exact ⟨.array, rfl⟩
  | array helement hitems => exact ⟨.array, rfl⟩
  | object hmembers hproperties => exact ⟨.other, rfl⟩

/-- A step succeeds exactly when the tags are read, the node of the category is built and the
type's own documentation is laid over it. -/
theorem compileUnder_succ_eq_ok_iff [BEq ι] {model : TypeModel τ ι} {depth : Nat}
    {active : Open ι} {type : τ} {node : Node} :
    (model.compileUnder (depth + 1) active type).outcome = .ok node ↔
      ∃ tags category base, Symbol.tagTextsOf (model.symbol type) = .ok tags ∧
        model.classify type = .ok category ∧
        (category = .object → ¬ IsOpen active (model.identity type)) ∧
        Built model (fun part node ↦
          (model.compileUnder depth (model.enter active type category) part).outcome = .ok node)
          type category base ∧
        (Constraint.applied base tags
          (Symbol.descriptionOf (model.symbol type))).outcome = .ok node := by
  simp only [compileUnder, compileStep, Logged.bind_eq_ok_iff, Logged.outcome_lift, build_eq_ok_iff]
  constructor
  · rintro ⟨tags, htags, category, hcategory, base, ⟨hopen, hbase⟩, hnode⟩
    exact ⟨tags, category, base, htags, hcategory, hopen, hbase, hnode⟩
  · rintro ⟨tags, category, base, htags, hcategory, hopen, hbase, hnode⟩
    exact ⟨tags, htags, category, hcategory, base, ⟨hopen, hbase⟩, hnode⟩

/-- The kind of a compiled node admits constraints. -/
theorem exists_gate_of_compileUnder [BEq ι] {model : TypeModel τ ι} {depth : Nat}
    {active : Open ι} {type : τ} {node : Node}
    (h : (model.compileUnder depth active type).outcome = .ok node) :
    ∃ gate, Constraint.gate (Dict.get? "type" node) = .ok gate := by
  cases depth with
  | zero => simp [compileUnder] at h
  | succ depth =>
    obtain ⟨tags, category, base, -, -, -, hbase, hnode⟩ := compileUnder_succ_eq_ok_iff.mp h
    obtain ⟨gate, hgate⟩ := hbase.exists_gate
    exact ⟨gate, Constraint.gate_applied hgate hnode⟩

/-! ## Types that are compiled alone -/

/-- A type whose node does not depend on the compilation of others is compiled to this node, with the
documentation of the type laid over it. -/
theorem outcome_compile_of_build [BEq ι] {model : TypeModel τ ι} {type : τ} {tags : Dict String}
    {category : Category} {result : Except Failure Node} (hdepth : model.depth type ≠ 0)
    (htags : Symbol.tagTextsOf (model.symbol type) = .ok tags)
    (hcategory : model.classify type = .ok category)
    (hbuild : ∀ compileType, (model.build compileType [] type category).outcome = result) :
    (model.compile type).outcome = result >>= fun node ↦
      (Constraint.applied node tags (Symbol.descriptionOf (model.symbol type))).outcome := by
  obtain ⟨depth, hdepth⟩ := Nat.exists_eq_succ_of_ne_zero hdepth
  rw [outcome_compile, hdepth]
  simp only [compileUnder, compileStep, Logged.outcome_bind, Logged.outcome_lift, htags, hcategory, hbuild,
    Outcome.ok_bind]

/-- A union that has no values is too complex for a schema. -/
theorem compile_complexUnion [BEq ι] {model : TypeModel τ ι} {type : τ} {tags : Dict String}
    {values : Option (List Json)} (hdepth : model.depth type ≠ 0)
    (htags : Symbol.tagTextsOf (model.symbol type) = .ok tags)
    (hcategory : model.classify type = .ok .union)
    (hvalues : model.literalValues (model.unionMembers type) = .ok values)
    (hempty : values.getD [] = []) :
    (model.compile type).outcome =
      .error (.ofError (.unsupportedType .complexUnion (model.render type))) := by
  have hbuild (compileType : Open ι → τ → Logged Node) :
      (model.build compileType [] type .union).outcome =
        .error (.ofError (.unsupportedType .complexUnion (model.render type))) := by
    rw [build, buildUnion, Logged.outcome_bind, Logged.outcome_lift, hvalues, Outcome.ok_bind, hempty]
    rfl
  rw [outcome_compile_of_build hdepth htags hcategory hbuild]
  rfl

/-- A union that has values is an enumeration of them, with the documentation laid over it. -/
theorem compile_union [BEq ι] {model : TypeModel τ ι} {type : τ} {tags : Dict String}
    {values : List Json} (hdepth : model.depth type ≠ 0)
    (htags : Symbol.tagTextsOf (model.symbol type) = .ok tags)
    (hcategory : model.classify type = .ok .union)
    (hvalues : model.literalValues (model.unionMembers type) = .ok (some values))
    (hne : values ≠ []) :
    (model.compile type).outcome = (Constraint.applied [("enum", .arr values)] tags
      (Symbol.descriptionOf (model.symbol type))).outcome := by
  have hbuild (compileType : Open ι → τ → Logged Node) :
      (model.build compileType [] type .union).outcome = .ok [("enum", .arr values)] := by
    cases values with
    | nil => exact absurd rfl hne
    | cons value values => exact buildUnion_eq_ok_iff.mpr ⟨value, values, hvalues, rfl⟩
  rw [outcome_compile_of_build hdepth htags hcategory hbuild, Outcome.ok_bind]

/-- A type that is classified as an enumeration has the values of one, with the documentation laid over
it. -/
theorem compile_enum [BEq ι] {model : TypeModel τ ι} {type : τ} {tags : Dict String}
    {values : List Json} (hdepth : model.depth type ≠ 0)
    (htags : Symbol.tagTextsOf (model.symbol type) = .ok tags)
    (hcategory : model.classify type = .ok .enum) (hvalues : model.enumValues type = .ok values) :
    (model.compile type).outcome = (Constraint.applied [("enum", .arr values)] tags
      (Symbol.descriptionOf (model.symbol type))).outcome := by
  have hbuild (compileType : Open ι → τ → Logged Node) :
      (model.build compileType [] type .enum).outcome = .ok [("enum", .arr values)] := by
    rw [build, hvalues]
    rfl
  rw [outcome_compile_of_build hdepth htags hcategory hbuild, Outcome.ok_bind]

/-! ## Failure -/

/-- How compiling a member fails, relative to how types are compiled and how they fail. -/
inductive MemberFailed (model : TypeModel τ ι) (compiled : τ → Node → Prop)
    (failed : τ → Failure → Prop) (typeName : String) (member : Member τ) : Failure → Prop where
  | tags {failure : Failure} (htags : Symbol.tagTextsOf member.symbol = .error failure) :
      MemberFailed model compiled failed typeName member failure
  | optional {failure : Failure} (hoptional : model.isOptional member = .error failure) :
      MemberFailed model compiled failed typeName member failure
  | conflict (hignored : Symbol.hasTag Constraint.ignoreTag member.symbol = true)
      (hoptional : model.isOptional member = .ok false) :
      MemberFailed model compiled failed typeName member
        (.schema (.ignoreConflict member.name)
          ("Member '" ++ member.name ++ "' of " ++ typeName ++ " is required"))
  | type {failure : Failure}
      (hignored : Symbol.hasTag Constraint.ignoreTag member.symbol = false)
      (hfailure : failed member.type failure) :
      MemberFailed model compiled failed typeName member failure
  | pass {tags : Dict String} {node : Node} {failure : Failure}
      (hignored : Symbol.hasTag Constraint.ignoreTag member.symbol = false)
      (htags : Symbol.tagTextsOf member.symbol = .ok tags) (hnode : compiled member.type node)
      (hfailure : (Constraint.applied node tags
        (Symbol.descriptionOf member.symbol)).outcome = .error failure) :
      MemberFailed model compiled failed typeName member failure

/-- How building a node fails, relative to how types are compiled and how they fail. -/
inductive BuildFailed [BEq ι] (model : TypeModel τ ι) (compiled : τ → Node → Prop)
    (failed : τ → Failure → Prop) (active : Open ι) (type : τ) : Category → Failure → Prop where
  | literal {category : Category} {failure : Failure}
      (hcategory : category ∈ [.stringLiteral, .numberLiteral])
      (hfailure : model.literal type = .error failure) :
      BuildFailed model compiled failed active type category failure
  | enumValues {failure : Failure} (hfailure : model.enumValues type = .error failure) :
      BuildFailed model compiled failed active type .enum failure
  | unionValues {failure : Failure}
      (hfailure : model.literalValues (model.unionMembers type) = .error failure) :
      BuildFailed model compiled failed active type .union failure
  | complexUnion {values : Option (List Json)}
      (hvalues : model.literalValues (model.unionMembers type) = .ok values)
      (hempty : values.getD [] = []) :
      BuildFailed model compiled failed active type .union
        (.ofError (.unsupportedType .complexUnion (model.render type)))
  | element {element : τ} {failure : Failure} (helement : model.element? type = some element)
      (hfailure : failed element failure) :
      BuildFailed model compiled failed active type .array failure
  | reentered (hopen : IsOpen active (model.identity type)) :
      BuildFailed model compiled failed active type .object
        (.ofError (.recursive (model.render type) (active.map Prod.snd ++ [model.render type])))
  | members {failure : Failure} (hfailure : (model.members type).outcome = .error failure) :
      BuildFailed model compiled failed active type .object failure
  | member {members : List (Member τ)} {member : Member τ} {failure : Failure}
      (hopen : ¬ IsOpen active (model.identity type))
      (hmembers : (model.members type).outcome = .ok members) (hmem : member ∈ members)
      (hfailure : MemberFailed model compiled failed (model.render type) member failure) :
      BuildFailed model compiled failed active type .object failure
  | tuple : BuildFailed model compiled failed active type .tuple
      (.ofError (.unsupportedType .tuple (model.render type)))
  | intersection : BuildFailed model compiled failed active type .intersection
      (.ofError (.unsupportedType .intersection (model.render type)))
  | unsupported : BuildFailed model compiled failed active type .unsupported
      (.ofError (.unsupportedType .unsupported (model.render type)))

theorem memberFailed_of_compileMember {model : TypeModel τ ι} {compileType : τ → Logged Node}
    {typeName : String} {member : Member τ} {failure : Failure}
    (h : (model.compileMember compileType typeName member).outcome = .error failure) :
    MemberFailed model (fun type node ↦ (compileType type).outcome = .ok node)
      (fun type failure ↦ (compileType type).outcome = .error failure) typeName member
      failure := by
  simp only [compileMember, Logged.bind_eq_error_iff, Logged.outcome_lift] at h
  rcases h with htags | ⟨tags, htags, hoptional | ⟨optional, hoptional, h⟩⟩
  · exact .tags htags
  · exact .optional hoptional
  · rw [Symbol.contains_tagTextsOf htags] at h
    split at h
    · rename_i hignored
      cases optional with
      | false =>
        obtain rfl : _ = failure := Except.error.inj h
        exact .conflict hignored hoptional
      | true => simp [Logged.bind_eq_error_iff, -bind_pure_comp] at h
    · rename_i hignored
      simp only [Logged.bind_eq_error_iff, Logged.outcome_pure, reduceCtorEq, and_false,
        exists_false, or_false] at h
      rcases h with htype | ⟨node, hnode, hpass⟩
      · exact .type (by simpa using hignored) htype
      · exact .pass (by simpa using hignored) htags hnode hpass

/-- Building fails at the type itself or at one of its parts. -/
theorem buildFailed_of_build [BEq ι] {model : TypeModel τ ι}
    {compileType : Open ι → τ → Logged Node} {active : Open ι} {type : τ} {category : Category}
    {failure : Failure}
    (h : (model.build compileType active type category).outcome = .error failure) :
    BuildFailed model
      (fun part node ↦ (compileType (model.enter active type category) part).outcome = .ok node)
      (fun part failure ↦
        (compileType (model.enter active type category) part).outcome = .error failure)
      active type category failure := by
  cases category with
  | string => cases h
  | number => cases h
  | boolean => cases h
  | booleanLiteral => cases h
  | null => cases h
  | undefined => cases h
  | stringLiteral =>
    simp only [build, Logged.bind_eq_error_iff, Logged.outcome_lift, Logged.outcome_pure,
      reduceCtorEq, and_false, exists_false, or_false] at h
    exact .literal (by decide) h
  | numberLiteral =>
    simp only [build, Logged.bind_eq_error_iff, Logged.outcome_lift, Logged.outcome_pure,
      reduceCtorEq, and_false, exists_false, or_false] at h
    exact .literal (by decide) h
  | enum =>
    simp only [build, Logged.bind_eq_error_iff, Logged.outcome_lift, Logged.outcome_pure,
      reduceCtorEq, and_false, exists_false, or_false] at h
    exact .enumValues h
  | union =>
    simp only [build, buildUnion, Logged.bind_eq_error_iff, Logged.outcome_lift] at h
    rcases h with hvalues | ⟨values, hvalues, h⟩
    · exact .unionValues hvalues
    · split at h
      · rename_i hempty
        obtain rfl : _ = failure := Except.error.inj h
        exact .complexUnion hvalues hempty
      · cases h
  | array =>
    cases helement : model.element? type with
    | none => simp [build, helement] at h
    | some element =>
      simp only [build, helement, Logged.bind_eq_error_iff, Logged.outcome_pure, reduceCtorEq,
        and_false, exists_false, or_false] at h
      exact .element helement h
  | object =>
    by_cases hopen : IsOpen active (model.identity type)
    · rw [build_object_of_open model hopen] at h
      obtain rfl : _ = failure := Except.error.inj h
      exact .reentered hopen
    · simp only [build_object_of_closed model hopen, Logged.bind_eq_error_iff, Logged.outcome_pure,
        reduceCtorEq, and_false, exists_false, or_false] at h
      rcases h with hmembers | ⟨members, hmembers, h⟩
      · exact .members hmembers
      · obtain ⟨member, hmem, hfailure⟩ := Logged.exists_mem_of_mapM_eq_error h
        exact .member hopen hmembers hmem (memberFailed_of_compileMember hfailure)
  | tuple =>
    obtain rfl : _ = failure := Except.error.inj h
    exact .tuple
  | intersection =>
    obtain rfl : _ = failure := Except.error.inj h
    exact .intersection
  | unsupported =>
    obtain rfl : _ = failure := Except.error.inj h
    exact .unsupported

/-- How a step fails: at the tags, at the category, at the parts or in the last pass. -/
theorem compileUnder_succ_eq_error [BEq ι] {model : TypeModel τ ι} {depth : Nat}
    {active : Open ι} {type : τ} {failure : Failure}
    (h : (model.compileUnder (depth + 1) active type).outcome = .error failure) :
    Symbol.tagTextsOf (model.symbol type) = .error failure ∨
      model.classify type = .error failure ∨
      (∃ category, model.classify type = .ok category ∧
        BuildFailed model
          (fun part node ↦
            (model.compileUnder depth (model.enter active type category) part).outcome = .ok node)
          (fun part failure ↦
            (model.compileUnder depth (model.enter active type category) part).outcome =
              .error failure) active type category failure) ∨
      ∃ tags gate base, Symbol.tagTextsOf (model.symbol type) = .ok tags ∧
        Constraint.gate (Dict.get? "type" base) = .ok gate ∧
        (Constraint.applied base tags
          (Symbol.descriptionOf (model.symbol type))).outcome = .error failure := by
  simp only [compileUnder, compileStep, Logged.bind_eq_error_iff, Logged.outcome_lift] at h
  rcases h with htags | ⟨tags, htags, hclassify | ⟨category, hcategory, hbuild | ⟨base, hbase, hpass⟩⟩⟩
  · exact .inl htags
  · exact .inr (.inl hclassify)
  · exact .inr (.inr (.inl ⟨category, hcategory, buildFailed_of_build hbuild⟩))
  · obtain ⟨gate, hgate⟩ := (build_eq_ok_iff.mp hbase).2.exists_gate
    exact .inr (.inr (.inr ⟨tags, gate, base, htags, hgate, hpass⟩))

end Schematic.TypeModel
