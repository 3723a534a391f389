import Schematic.Proofs.Descent

/-!
# Nested schemas

A schema holds the schema of its elements and those of its properties. What holds of
every node as it is built, and is kept by every pass, holds of a compiled node and of
all nodes nested in it. The passes are those of the symbols below the compiled type, and
nothing else comes to the node. The induction is on the bound of the nesting and is done
here once.
-/

namespace Schematic

namespace Node

/-- The schemas directly under a node. -/
inductive Child (node : Node) : Node → Prop where
  | item {child : Node} (hitems : Dict.get? "items" node = some (.obj child)) : Child node child
  | property {fields : Dict Json} {name : String} {child : Node}
      (hproperties : Dict.get? "properties" node = some (.obj fields))
      (hmem : (name, .obj child) ∈ fields) : Child node child

/-- A node without items and properties has no schema under it. -/
theorem not_child {node child : Node} (hitems : Dict.get? "items" node = none)
    (hproperties : Dict.get? "properties" node = none) : ¬ Child node child := by
  intro h
  cases h with
  | item hget => cases hitems.symm.trans hget
  | property hget hmem => cases hproperties.symm.trans hget

/-- Whether a statement holds of a node and of every node nested in it. -/
def Everywhere (P : Node → Prop) (node : Node) : Prop :=
  ∀ nested, Relation.ReflTransGen Child node nested → P nested

/-- A statement holds everywhere if it holds at the node and everywhere below. -/
theorem everywhere_iff {P : Node → Prop} {node : Node} :
    Everywhere P node ↔ P node ∧ ∀ child, Child node child → Everywhere P child := by
  constructor
  · intro h
    exact ⟨h node .refl, fun child hchild nested hnested ↦ h nested (hnested.head hchild)⟩
  · rintro ⟨hnode, hchildren⟩ nested hnested
    rcases hnested.cases_head with rfl | ⟨child, hchild, hrest⟩
    · exact hnode
    · exact hchildren child hchild nested hrest

/-- A pass leaves the nested schemas as they are. -/
theorem child_of_applied {base node child : Node} {tags : Dict String}
    {description : Option String} {gate : Constraint.Gate}
    (hgate : Constraint.gate (Dict.get? "type" base) = .ok gate)
    (hnode : (Constraint.applied base tags description).outcome = .ok node)
    (hchild : Child node child) : Child base child := by
  have hkey : ∀ key ∈ Constraint.builtKeys, Dict.get? key node = Dict.get? key base :=
    fun _ hkey ↦ Constraint.get?_applied_builtKey hkey hgate hnode
  cases hchild with
  | item hitems => exact .item (by rwa [hkey "items" (by decide)] at hitems)
  | property hproperties hmem =>
    exact .property (by rwa [hkey "properties" (by decide)] at hproperties) hmem

end Node

namespace TypeModel

variable {τ ι : Type}

/-- The symbols whose tags may come to a schema: those of the types below a root, and those of their
members that are not ignored. -/
inductive Documents (model : TypeModel τ ι) (root : τ) : Option Symbol → Prop where
  | type {type : τ} (h : Relation.ReflTransGen model.Successor root type) :
      Documents model root (model.symbol type)
  | member {type : τ} {members : List (Member τ)} {member : Member τ}
      (h : Relation.ReflTransGen model.Successor root type)
      (hobject : model.classify type = .ok .object)
      (hmembers : (model.members type).outcome = .ok members) (hmember : member ∈ members)
      (hkept : Symbol.hasTag Constraint.ignoreTag member.symbol = false) :
      Documents model root member.symbol

/-- Below a type that is neither an array nor a struct there is only the type itself. -/
theorem eq_of_leaf {model : TypeModel τ ι} {root type : τ} {category : Category}
    (hcategory : model.classify root = .ok category) (hleaf : category ∉ [.array, .object])
    (h : Relation.ReflTransGen model.Successor root type) : type = root := by
  have hcases (other : Category) (hother : other ∈ [.array, .object]) :
      model.classify root ≠ .ok other := by
    intro heq
    obtain rfl := Except.ok.inj (hcategory.symm.trans heq)
    exact hleaf hother
  rcases h.cases_head with rfl | ⟨part, ⟨harray, -⟩ | ⟨hobject, -⟩, -⟩
  · rfl
  · exact absurd harray (hcases _ (by decide))
  · exact absurd hobject (hcases _ (by decide))

/-- A type without parts has no symbols but its own. -/
theorem Documents.eq_of_leaf {model : TypeModel τ ι} {root : τ} {category : Category}
    {symbol : Option Symbol} (hcategory : model.classify root = .ok category)
    (hleaf : category ∉ [.array, .object]) (h : model.Documents root symbol) :
    symbol = model.symbol root := by
  cases h with
  | type hbelow => rw [TypeModel.eq_of_leaf hcategory hleaf hbelow]
  | member hbelow hobject =>
    rw [TypeModel.eq_of_leaf hcategory hleaf hbelow] at hobject
    obtain rfl := Except.ok.inj (hcategory.symm.trans hobject)
    exact absurd (by decide) hleaf

/-- A tag that may come to the schema of a root, with its text. -/
def Documented (model : TypeModel τ ι) (root : τ) (name text : String) : Prop :=
  ∃ symbol tags, model.Documents root symbol ∧ Symbol.tagTextsOf symbol = .ok tags ∧
    Dict.get? name tags = some text

theorem Documented.get?_of_leaf {model : TypeModel τ ι} {root : τ} {category : Category}
    {tags : Dict String} {name text : String} (hcategory : model.classify root = .ok category)
    (hleaf : category ∉ [.array, .object])
    (htags : Symbol.tagTextsOf (model.symbol root) = .ok tags)
    (h : model.Documented root name text) : Dict.get? name tags = some text := by
  obtain ⟨symbol, found, hsymbol, hfound, htext⟩ := h
  rw [hsymbol.eq_of_leaf hcategory hleaf] at hfound
  obtain rfl := Except.ok.inj (htags.symm.trans hfound)
  exact htext

/-- A schema nested in a node as it is built is what a successor is compiled to, perhaps after the
pass of a member. -/
theorem Built.child {model : TypeModel τ ι} {compiled : τ → Node → Prop} {root type : τ}
    {category : Category} {base child : Node}
    (hbelow : Relation.ReflTransGen model.Successor root type)
    (hcategory : model.classify type = .ok category) (h : Built model compiled type category base)
    (hchild : Node.Child base child) :
    ∃ part node, model.Successor type part ∧ compiled part node ∧ (node = child ∨
      ∃ symbol tags, model.Documents root symbol ∧ Symbol.tagTextsOf symbol = .ok tags ∧
        (Constraint.applied node tags (Symbol.descriptionOf symbol)).outcome = .ok child) := by
  cases h with
  | @array element items helement hitems =>
    cases hchild with
    | item hget =>
      obtain rfl : items = child := by simpa [Dict.get?] using hget
      exact ⟨element, items, .inl ⟨hcategory, helement⟩, hitems, .inl rfl⟩
    | property hget => simp [Dict.get?] at hget
  | @object members properties hmembers hproperties =>
    rw [structNode_eq] at hchild
    cases hchild with
    | item hget =>
      rw [get?_objectNode_eq_none (by decide)] at hget
      cases hget
    | @property fields name _ hget hmem =>
      rw [get?_objectNode_properties, Option.some.injEq, Json.obj.injEq] at hget
      subst hget
      have hentry := Dict.mem_of_mem_ofList hmem
      simp only [List.mem_map, List.mem_filterMap, id_eq, exists_eq_right, Prod.mk.injEq,
        Json.obj.injEq] at hentry
      obtain ⟨property, hproperty, -, rfl⟩ := hentry
      obtain ⟨member, hmember, hbuilt⟩ := Outcome.exists_of_mem_right hproperties hproperty
      cases hbuilt with
      | @kept tags optional node result htags hkept hoptional hnode hresult =>
        refine ⟨member.type, node, .inr ⟨hcategory, members, hmembers, member, hmember, hkept, rfl⟩,
          hnode, .inr ⟨member.symbol, tags, ?_, htags, hresult⟩⟩
        exact .member hbelow hcategory hmembers hmember hkept
  | _ => exact absurd hchild (Node.not_child rfl rfl)

/-- The passes of all symbols below a root keep a property of nodes. -/
def KeptBelow (model : TypeModel τ ι) (root : τ) (P : Node → Prop) : Prop :=
  ∀ {base node : Node} {symbol : Option Symbol} {tags : Dict String} {gate : Constraint.Gate},
    model.Documents root symbol → Symbol.tagTextsOf symbol = .ok tags →
    Constraint.gate (Dict.get? "type" base) = .ok gate →
    (Constraint.applied base tags (Symbol.descriptionOf symbol)).outcome = .ok node →
    P base → P node

variable [BEq ι]

/-- What a type is compiled to under some open structs with some bound on the nesting. -/
def HasSchema (model : TypeModel τ ι) (type : τ) (node : Node) : Prop :=
  ∃ depth active, (model.compileUnder depth active type).outcome = .ok node

/-- What is inherited from the nested schemas by a node built from the schemas of the parts, and is
kept by the passes of all symbols below a root, holds of every schema of a type below the root. -/
theorem HasSchema.induction {model : TypeModel τ ι} {root : τ} {P : Node → Prop}
    (hbuilt : ∀ {type : τ} {category : Category} {base : Node},
      Relation.ReflTransGen model.Successor root type → model.classify type = .ok category →
        Built model model.HasSchema type category base → (∀ child, Node.Child base child → P child) →
        P base)
    (hpass : model.KeptBelow root P) {type : τ} {node : Node}
    (hbelow : Relation.ReflTransGen model.Successor root type) (h : model.HasSchema type node) :
    P node := by
  obtain ⟨depth, active, h⟩ := h
  induction depth generalizing active type node with
  | zero => simp [compileUnder] at h
  | succ depth ih =>
    obtain ⟨tags, category, base, htags, hcategory, -, hbase, hnode⟩ :=
      compileUnder_succ_eq_ok_iff.mp h
    obtain ⟨gate, hgate⟩ := hbase.exists_gate
    have hparts : Built model model.HasSchema type category base :=
      hbase.mono fun part partNode hpart ↦ ⟨depth, _, hpart⟩
    refine hpass (.type hbelow) htags hgate hnode (hbuilt hbelow hcategory hparts ?_)
    intro child hchild
    obtain ⟨part, partNode, hsuccessor, hpart,
      rfl | ⟨symbol, partTags, hsymbol, hpartTags, hchildNode⟩⟩ :=
      hbase.child hbelow hcategory hchild
    · exact ih (hbelow.tail hsuccessor) _ hpart
    · obtain ⟨partGate, hpartGate⟩ := exists_gate_of_compileUnder hpart
      exact hpass hsymbol hpartTags hpartGate hchildNode (ih (hbelow.tail hsuccessor) _ hpart)

/-- What is inherited from the nested schemas by a node as it is built, and is kept by the passes of
all symbols below a root, holds of every node that a type below the root is compiled to. -/
theorem compileUnder_induction {model : TypeModel τ ι} {root : τ} {P : Node → Prop}
    (hbuilt : ∀ {compiled : τ → Node → Prop} {type : τ} {category : Category} {base : Node},
      Relation.ReflTransGen model.Successor root type → model.classify type = .ok category →
        Built model compiled type category base → (∀ child, Node.Child base child → P child) →
        P base)
    (hpass : model.KeptBelow root P) {depth : Nat} {active : Open ι} {type : τ} {node : Node}
    (hbelow : Relation.ReflTransGen model.Successor root type)
    (h : (model.compileUnder depth active type).outcome = .ok node) : P node :=
  HasSchema.induction hbuilt hpass hbelow ⟨depth, active, h⟩

/-- What holds of all nodes built from the schemas of the parts below a root, and is kept by the passes
there, holds everywhere in a schema of the root. -/
theorem HasSchema.everywhere {model : TypeModel τ ι} {root : τ} {P : Node → Prop}
    (hbuilt : ∀ {type : τ} {category : Category} {base : Node},
      Relation.ReflTransGen model.Successor root type → model.classify type = .ok category →
        Built model model.HasSchema type category base → P base)
    (hpass : model.KeptBelow root P) {node : Node} (h : model.HasSchema root node) :
    Node.Everywhere P node := by
  refine HasSchema.induction (P := Node.Everywhere P) ?_ ?_ .refl h
  · intro type category base hbelow hcategory hbase hchildren
    exact Node.everywhere_iff.mpr ⟨hbuilt hbelow hcategory hbase, hchildren⟩
  · intro base node symbol tags gate hsymbol htags hgate hnode hbase
    rw [Node.everywhere_iff] at hbase ⊢
    exact ⟨hpass hsymbol htags hgate hnode hbase.1,
      fun child hchild ↦ hbase.2 child (Node.child_of_applied hgate hnode hchild)⟩

/-- What holds of all nodes as they are built below a root, and is kept by the passes there, holds
everywhere in what the root is compiled to. -/
theorem compileUnder_everywhere_below {model : TypeModel τ ι} {root : τ} {P : Node → Prop}
    (hbuilt : ∀ {compiled : τ → Node → Prop} {type : τ} {category : Category} {base : Node},
      model.classify type = .ok category → Built model compiled type category base → P base)
    (hpass : model.KeptBelow root P) {depth : Nat} {active : Open ι} {node : Node}
    (h : (model.compileUnder depth active root).outcome = .ok node) : Node.Everywhere P node :=
  HasSchema.everywhere (fun _ hcategory hbase ↦ hbuilt hcategory hbase) hpass ⟨depth, active, h⟩

/-- What holds of all nodes as they are built, and is kept by all passes, holds everywhere in a
compiled node. -/
theorem compileUnder_everywhere {model : TypeModel τ ι} {P : Node → Prop}
    (hbuilt : ∀ {compiled : τ → Node → Prop} {type : τ} {category : Category} {base : Node},
      model.classify type = .ok category → Built model compiled type category base → P base)
    (hpass : ∀ {base node : Node} {tags : Dict String} {description : Option String}
      {gate : Constraint.Gate}, Constraint.gate (Dict.get? "type" base) = .ok gate →
        (Constraint.applied base tags description).outcome = .ok node → P base → P node)
    {depth : Nat} {active : Open ι} {type : τ} {node : Node}
    (h : (model.compileUnder depth active type).outcome = .ok node) :
    Node.Everywhere P node :=
  compileUnder_everywhere_below hbuilt (fun _ _ ↦ hpass) h

end TypeModel

end Schematic
