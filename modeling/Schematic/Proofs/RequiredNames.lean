import Schematic.Proofs.Composition
import Schematic.Proofs.Redeclaration
import Schematic.Proofs.Subschema
import Schematic.Reference.Environment

/-!
# Required names

The properties of a struct are laid out by name, and beside them the names of the members that are
required are listed. A type model may report several members of one name. Of these the last one has
the property, but each one that is required is listed. So the list goes with the properties exactly
where no required member is followed by another member of its name: then every name is listed at
most once, and it is listed when the member that has the property is required.
-/

namespace Schematic

namespace Node

def requiredNames (node : Node) : List String :=
  ((Dict.get? "required" node).elim [] Json.items).filterMap Json.str?

def propertySchemas (node : Node) : Dict Json :=
  (Dict.get? "properties" node).elim [] Json.fields

theorem requiredNames_objectNode (fields : Dict Json) (names : List String) :
    requiredNames (TypeModel.objectNode fields names) = names := by
  unfold requiredNames
  rw [TypeModel.get?_objectNode_required]
  cases names with
  | nil => rfl
  | cons name names =>
    change ((name :: names).map Json.str).filterMap Json.str? = _
    rw [List.filterMap_map]
    exact List.filterMap_some

theorem propertySchemas_objectNode (fields : Dict Json) (names : List String) :
    propertySchemas (TypeModel.objectNode fields names) = fields := by
  unfold propertySchemas
  rw [TypeModel.get?_objectNode_properties]
  rfl

end Node

/-! ## Names that are listed -/

section Listed

variable {α : Type} (name : α → String) (required : α → Bool)

/-- The names of the required entries of a list, in order. -/
def listedNames (entries : List α) : List String :=
  (entries.filter required).map name

def lastNamed (entries : List α) (key : String) : Option α :=
  entries.reverse.find? fun entry ↦ name entry = key

/-- Every name is listed at most once, and it is listed when its last entry is required. -/
structure ListedOnce (entries : List α) : Prop where
  distinct : (listedNames name required entries).Nodup
  listed : ∀ key entry, lastNamed name entries key = some entry →
    (key ∈ listedNames name required entries ↔ required entry = true)

variable {name required}

/-- A name is listed for a required entry. -/
theorem mem_listedNames {entries : List α} {key : String} :
    key ∈ listedNames name required entries ↔
      ∃ entry ∈ entries, required entry = true ∧ name entry = key := by
  simp only [listedNames, List.mem_map, List.mem_filter, and_assoc]

theorem lastNamed_cons (entry : α) (entries : List α) (key : String) :
    lastNamed name (entry :: entries) key =
      (lastNamed name entries key).or (if name entry = key then some entry else none) := by
  unfold lastNamed
  rw [List.reverse_cons, List.find?_append, List.find?_singleton]
  simp only [decide_eq_true_eq]

/-- The last entry of a name is one of the entries. -/
theorem mem_of_lastNamed {entries : List α} {key : String} {entry : α}
    (h : lastNamed name entries key = some entry) : entry ∈ entries ∧ name entry = key := by
  refine ⟨List.mem_reverse.mp (List.mem_of_find?_eq_some h), ?_⟩
  simpa using List.find?_some h

theorem exists_lastNamed (name : α → String) {entries : List α} {entry : α} (h : entry ∈ entries) :
    ∃ last, lastNamed name entries (name entry) = some last := by
  rw [← Option.isSome_iff_exists, lastNamed, List.find?_isSome]
  exact ⟨entry, List.mem_reverse.mpr h, by simp⟩

/-- Where a name has no last entry, it has none at all. -/
theorem lastNamed_eq_none {entries : List α} {key : String}
    (h : lastNamed name entries key = none) : ∀ entry ∈ entries, name entry ≠ key := by
  rintro entry hentry rfl
  obtain ⟨last, hlast⟩ := exists_lastNamed name hentry
  cases h.symm.trans hlast

theorem listedNames_cons (entry : α) (entries : List α) :
    listedNames name required (entry :: entries) =
      if required entry then name entry :: listedNames name required entries
      else listedNames name required entries := by
  unfold listedNames
  rw [List.filter_cons]
  split <;> rfl

theorem mem_listedNames_cons {entry : α} {entries : List α} {key : String} :
    key ∈ listedNames name required (entry :: entries) ↔
      (required entry = true ∧ name entry = key) ∨ key ∈ listedNames name required entries := by
  simp only [mem_listedNames, List.exists_mem_cons_iff]

/-- An entry in front is no later one, so the last entries stay the last ones. -/
theorem ListedOnce.tail {entry : α} {entries : List α}
    (h : ListedOnce name required (entry :: entries)) : ListedOnce name required entries where
  distinct := by
    have hdistinct := h.distinct
    rw [listedNames_cons] at hdistinct
    split at hdistinct
    · exact (List.nodup_cons.mp hdistinct).2
    · exact hdistinct
  listed := by
    intro key last hlast
    have hlisted := h.listed key last (by rw [lastNamed_cons, hlast, Option.some_or])
    constructor
    · intro hkey
      exact hlisted.mp (mem_listedNames_cons.mpr (.inr hkey))
    · intro hrequired
      obtain ⟨hmem, hname⟩ := mem_of_lastNamed hlast
      exact mem_listedNames.mpr ⟨last, hmem, hrequired, hname⟩

/-- The last entry of a name that is required in front would be listed a second time. -/
theorem ListedOnce.name_ne {entry later : α} {entries : List α}
    (h : ListedOnce name required (entry :: entries)) (hrequired : required entry = true)
    (hlater : later ∈ entries) : name later ≠ name entry := by
  intro hname
  obtain ⟨last, hlast⟩ := exists_lastNamed name hlater
  obtain ⟨hmem, hlastName⟩ := mem_of_lastNamed hlast
  have hlisted := h.listed (name later) last (by rw [lastNamed_cons, hlast, Option.some_or])
  have hlastRequired : required last = true :=
    hlisted.mp (mem_listedNames_cons.mpr (.inl ⟨hrequired, hname.symm⟩))
  have htwice : name entry ∈ listedNames name required entries :=
    mem_listedNames.mpr ⟨last, hmem, hlastRequired, hlastName.trans hname⟩
  have hdistinct := h.distinct
  rw [listedNames_cons, if_pos hrequired] at hdistinct
  exact (List.nodup_cons.mp hdistinct).1 htwice

/-- An entry may be added in front if no later one has its name. -/
theorem ListedOnce.cons {entry : α} {entries : List α} (h : ListedOnce name required entries)
    (hfresh : required entry = true → ∀ later ∈ entries, name later ≠ name entry) :
    ListedOnce name required (entry :: entries) where
  distinct := by
    rw [listedNames_cons]
    split
    · rename_i hrequired
      refine List.nodup_cons.mpr ⟨fun hmem ↦ ?_, h.distinct⟩
      obtain ⟨later, hlater, -, hname⟩ := mem_listedNames.mp hmem
      exact hfresh hrequired later hlater hname
    · exact h.distinct
  listed := by
    intro key last hlast
    rw [mem_listedNames_cons]
    rw [lastNamed_cons] at hlast
    cases hrest : lastNamed name entries key with
    | some found =>
      rw [hrest, Option.some_or, Option.some.injEq] at hlast
      subst hlast
      obtain ⟨hmem, hname⟩ := mem_of_lastNamed hrest
      rw [← h.listed key found hrest]
      refine or_iff_right fun hentry ↦ ?_
      exact hfresh hentry.1 found hmem (hname.trans hentry.2.symm)
    | none =>
      rw [hrest, Option.none_or] at hlast
      obtain ⟨hname, rfl⟩ : name entry = key ∧ entry = last := by simpa using hlast
      have hothers : key ∉ listedNames name required entries := by
        intro hmem
        obtain ⟨other, hother, -, hotherName⟩ := mem_listedNames.mp hmem
        exact lastNamed_eq_none hrest other hother hotherName
      simp only [hname, and_true, hothers, or_false]

/-- Names are listed once, for their last entries, exactly where no required entry is followed by
another entry of its name. -/
theorem listedOnce_iff {entries : List α} :
    ListedOnce name required entries ↔
      entries.Pairwise fun entry later ↦ required entry = true → name later ≠ name entry := by
  induction entries with
  | nil =>
    have hnil : ListedOnce name required [] := ⟨List.nodup_nil, nofun⟩
    exact iff_of_true hnil .nil
  | cons entry entries ih =>
    rw [List.pairwise_cons, ← ih]
    constructor
    · intro h
      exact ⟨fun later hlater hrequired ↦ h.name_ne hrequired hlater, h.tail⟩
    · rintro ⟨hfresh, hentries⟩
      exact hentries.cons fun hrequired later hlater ↦ hfresh later hlater hrequired

end Listed

namespace TypeModel

variable {τ ι : Type}

/-! ## The members of a struct -/

/-- The members that are not tagged to be ignored. -/
def keptOf (members : List (Member τ)) : List (Member τ) :=
  members.filter fun member ↦ !Symbol.hasTag Constraint.ignoreTag member.symbol

/-- Whether a member is neither declared optional nor of a type that includes undefined. -/
def isRequired (model : TypeModel τ ι) (member : Member τ) : Bool :=
  match model.isOptional member with
  | .ok optional => !optional
  | .error _ => false

/-- A member is required exactly where the model answers that it is not optional. -/
theorem isRequired_iff {model : TypeModel τ ι} {member : Member τ} :
    model.isRequired member = true ↔ model.isOptional member = .ok false := by
  unfold isRequired
  cases model.isOptional member <;> simp

/-- Properties are listed like the members that they are built for. -/
theorem listedNames_of_forall₂ {model : TypeModel τ ι} {compiled : τ → Node → Prop}
    {members : List (Member τ)} {properties : List Property}
    (h : List.Forall₂ (fun member property ↦ MemberBuilt model compiled member (some property))
      members properties) :
    listedNames Property.name Property.required properties =
      listedNames Member.name model.isRequired members := by
  induction h with
  | nil => rfl
  | @cons member property members properties hmember hrest ih =>
    rw [listedNames_cons, listedNames_cons, ih]
    cases hmember with
    | @kept tags optional node result htags hignored hoptional hnode hresult =>
      have hrequired : model.isRequired member = !optional := by
        unfold isRequired
        rw [hoptional]
      rw [hrequired]

/-- Under a name stands the schema of the last member of that name. -/
theorem rel_lastNamed_of_forall₂ {model : TypeModel τ ι} {compiled : τ → Node → Prop}
    {members : List (Member τ)} {properties : List Property}
    (h : List.Forall₂ (fun member property ↦ MemberBuilt model compiled member (some property))
      members properties) (name : String) :
    Option.Rel (fun member value ↦ ∃ schema required, value = Json.obj schema ∧
        MemberBuilt model compiled member (some ⟨name, schema, required⟩))
      (lastNamed Member.name members name)
      (Dict.get? name (Dict.ofList (properties.map fun property ↦
        (property.name, Json.obj property.schema)))) := by
  rw [Dict.get?_ofList, ← List.map_reverse]
  unfold lastNamed
  have hreverse := List.forall₂_reverse_iff.mpr h
  generalize members.reverse = members at hreverse
  generalize properties.reverse = properties at hreverse
  -- From the end, the first member of the name and the first property of the name go together.
  induction hreverse with
  | nil => exact .none
  | @cons member property members properties hmember hrest ih =>
    rw [List.map_cons, Dict.get?]
    cases hmember with
    | @kept tags optional node result htags hignored hoptional hnode hresult =>
      by_cases hname : member.name = name
      · rw [List.find?_cons_of_pos (by simpa using hname), if_pos hname]
        subst hname
        exact .some ⟨result, !optional, rfl, .kept htags hignored hoptional hnode hresult⟩
      · rw [List.find?_cons_of_neg (by simpa using hname), if_neg hname]
        exact ih

variable [BEq ι]

/-- A node with the properties and the required names of some members: under each name stands the
schema of the last member of that name, and the names of all required members are listed in order. -/
structure Tabulates (model : TypeModel τ ι) (members : List (Member τ)) (node : Node) : Prop where
  properties : ∀ name, Option.Rel (fun member value ↦ ∃ schema required, value = Json.obj schema ∧
      MemberBuilt model model.HasSchema member (some ⟨name, schema, required⟩))
    (lastNamed Member.name members name) (Dict.get? name node.propertySchemas)
  required : node.requiredNames = listedNames Member.name model.isRequired members

/-- The required names go with the properties: none is listed twice, each is that of a property, and
it is listed when the member whose schema stands under it is not optional. -/
structure RequiredFits (model : TypeModel τ ι) (members : List (Member τ)) (node : Node) : Prop where
  distinct : node.requiredNames.Nodup
  known : ∀ name ∈ node.requiredNames, name ∈ Dict.keys node.propertySchemas
  listed : ∀ name member, lastNamed Member.name members name = some member →
    (name ∈ node.requiredNames ↔ model.isOptional member = .ok false)

/-- Every name that is listed is that of a property. -/
theorem Tabulates.known {model : TypeModel τ ι} {members : List (Member τ)} {node : Node}
    (h : model.Tabulates members node) {name : String} (hname : name ∈ node.requiredNames) :
    name ∈ Dict.keys node.propertySchemas := by
  rw [h.required] at hname
  obtain ⟨member, hmember, -, rfl⟩ := mem_listedNames.mp hname
  obtain ⟨last, hlast⟩ := exists_lastNamed Member.name hmember
  have hproperty := h.properties member.name
  rw [hlast] at hproperty
  cases hvalue : Dict.get? member.name node.propertySchemas with
  | none => simp [hvalue] at hproperty
  | some value => exact Dict.mem_keys_of_get?_eq_some hvalue

/-- The list goes with the properties exactly where no required name comes again. -/
theorem Tabulates.requiredFits_iff {model : TypeModel τ ι} {members : List (Member τ)} {node : Node}
    (h : model.Tabulates members node) :
    model.RequiredFits members node ↔ members.Pairwise fun member later ↦
      model.isOptional member = .ok false → later.name ≠ member.name := by
  have honce : ListedOnce Member.name model.isRequired members ↔ members.Pairwise fun member later ↦
      model.isRequired member = true → later.name ≠ member.name := listedOnce_iff
  simp only [isRequired_iff] at honce
  rw [← honce]
  constructor
  · intro hfits
    refine ⟨h.required ▸ hfits.distinct, fun name member hlast ↦ ?_⟩
    rw [← h.required, isRequired_iff]
    exact hfits.listed name member hlast
  · intro honce
    refine ⟨h.required ▸ honce.distinct, fun name ↦ h.known, fun name member hlast ↦ ?_⟩
    rw [h.required, ← isRequired_iff]
    exact honce.listed name member hlast

/-! ## Object nodes of a schema -/

/-- A pass leaves the properties and the required names as they are. -/
theorem Tabulates.of_applied {model : TypeModel τ ι} {members : List (Member τ)} {base node : Node}
    {tags : Dict String} {description : Option String} {gate : Constraint.Gate}
    (hgate : Constraint.gate (Dict.get? "type" base) = .ok gate)
    (hnode : (Constraint.applied base tags description).outcome = .ok node)
    (h : model.Tabulates members base) : model.Tabulates members node := by
  have hkey : ∀ key ∈ Constraint.builtKeys, Dict.get? key node = Dict.get? key base :=
    fun _ hkey ↦ Constraint.get?_applied_builtKey hkey hgate hnode
  have hproperties : node.propertySchemas = base.propertySchemas := by
    unfold Node.propertySchemas
    rw [hkey "properties" (by decide)]
  have hrequired : node.requiredNames = base.requiredNames := by
    unfold Node.requiredNames
    rw [hkey "required" (by decide)]
  exact ⟨hproperties ▸ h.properties, hrequired ▸ h.required⟩

/-- No pass makes an object of another type. -/
theorem object_of_applied {base node : Node} {tags : Dict String} {description : Option String}
    {gate : Constraint.Gate} (hgate : Constraint.gate (Dict.get? "type" base) = .ok gate)
    (hnode : (Constraint.applied base tags description).outcome = .ok node)
    (hobject : Dict.get? "type" node = some (.str "object")) :
    Dict.get? "type" base = some (.str "object") := by
  refine Constraint.applied_induction
    (P := fun current ↦ Dict.get? "type" current = some (.str "object") →
      Dict.get? "type" base = some (.str "object"))
    hgate (fun key value current hadmits hcurrent htype ↦ ?_) id hnode hobject
  rw [Dict.get?_set] at htype
  split at htype
  · rename_i hkey
    obtain ⟨-, rfl⟩ := (hkey ▸ hadmits).type_eq
    simp at htype
  · exact hcurrent htype

omit [BEq ι] in
/-- An object node is built for a struct only. -/
theorem Built.object_of_type {model : TypeModel τ ι} {compiled : τ → Node → Prop} {type : τ}
    {category : Category} {base : Node} (h : Built model compiled type category base)
    (hobject : Dict.get? "type" base = some (.str "object")) : category = .object := by
  cases h with
  | object => rfl
  | _ => simp [Dict.get?] at hobject

/-- The node of a struct tabulates the members that are kept. -/
theorem Built.tabulates {model : TypeModel τ ι} {type : τ} {base : Node}
    (h : Built model model.HasSchema type .object base) :
    ∃ members, (model.members type).outcome = .ok members ∧ model.Tabulates (keptOf members) base := by
  cases h with
  | @object members properties hmembers hproperties =>
    have hkept := forall₂_kept hproperties
    refine ⟨members, hmembers, ?_, ?_⟩
    · intro name
      rw [structNode_eq, Node.propertySchemas_objectNode]
      exact rel_lastNamed_of_forall₂ hkept name
    · rw [structNode_eq, Node.requiredNames_objectNode]
      exact listedNames_of_forall₂ hkept

/-- A schema of a struct has the properties and the required names of the kept members. -/
theorem HasSchema.tabulates {model : TypeModel τ ι} {type : τ} {node : Node}
    {members : List (Member τ)} (h : model.HasSchema type node)
    (hobject : model.classify type = .ok .object)
    (hmembers : (model.members type).outcome = .ok members) :
    model.Tabulates (keptOf members) node := by
  obtain ⟨depth, active, h⟩ := h
  cases depth with
  | zero => simp [compileUnder] at h
  | succ depth =>
    obtain ⟨tags, category, base, -, hcategory, -, hbase, hnode⟩ := compileUnder_succ_eq_ok_iff.mp h
    obtain rfl : category = .object := Except.ok.inj (hcategory.symm.trans hobject)
    have hparts : Built model model.HasSchema type .object base :=
      hbase.mono fun part partNode hpart ↦ ⟨depth, _, hpart⟩
    obtain ⟨gate, hgate⟩ := hbase.exists_gate
    obtain ⟨found, hfound, htabulates⟩ := hparts.tabulates
    obtain rfl : members = found := Except.ok.inj (hmembers.symm.trans hfound)
    exact htabulates.of_applied hgate hnode

/-- A node lists the names of the required members of a struct. All of them are names of properties,
and the list goes with the properties exactly where no required member is followed by another member
of its name. -/
structure ListsRequired (model : TypeModel τ ι) (members : List (Member τ)) (node : Node) :
    Prop where
  tabulates : model.Tabulates members node
  known : ∀ name ∈ node.requiredNames, name ∈ Dict.keys node.propertySchemas
  fits_iff : model.RequiredFits members node ↔ members.Pairwise fun member later ↦
    model.isOptional member = .ok false → later.name ≠ member.name

theorem Tabulates.listsRequired {model : TypeModel τ ι} {members : List (Member τ)} {node : Node}
    (h : model.Tabulates members node) : model.ListsRequired members node :=
  ⟨h, fun _ ↦ h.known, h.requiredFits_iff⟩

/-- The schema of a struct lists the names of the required members, and so does every object node in a
compiled schema for the members of a struct below the type. -/
theorem compile_requiredNames (model : TypeModel τ ι) (type : τ) (node : Node)
    (h : (model.compile type).outcome = .ok node) :
    (model.classify type = .ok .object → ∀ members, (model.members type).outcome = .ok members →
      model.ListsRequired (keptOf members) node) ∧
    Node.Everywhere (fun nested ↦ Dict.get? "type" nested = some (.str "object") →
      ∃ struct members, Relation.ReflTransGen model.Successor type struct ∧
        model.classify struct = .ok .object ∧ (model.members struct).outcome = .ok members ∧
        model.ListsRequired (keptOf members) nested) node := by
  have hschema : model.HasSchema type node := ⟨_, _, compile_eq_ok_iff.mp h⟩
  refine ⟨fun hobject members hmembers ↦ (hschema.tabulates hobject hmembers).listsRequired, ?_⟩
  refine hschema.everywhere ?_ ?_
  · intro struct category base hbelow hcategory hbase hobject
    obtain rfl := hbase.object_of_type hobject
    obtain ⟨members, hmembers, htabulates⟩ := hbase.tabulates
    exact ⟨struct, members, hbelow, hcategory, hmembers, htabulates.listsRequired⟩
  · intro base nested symbol tags gate _ _ hgate hnested hbase hobject
    obtain ⟨struct, members, hbelow, hcategory, hmembers, hlists⟩ :=
      hbase (object_of_applied hgate hnested hobject)
    have htabulates := hlists.tabulates.of_applied hgate hnested
    exact ⟨struct, members, hbelow, hcategory, hmembers, htabulates.listsRequired⟩

end TypeModel

namespace Scripted

open TypeModel

/-- A contact has two optional members and a required one of one name, the required one last, and an
ignored one after it. -/
def contactTable : Table :=
  [{ name := "Contact", flags := [.object],
     members := [⟨"mail", 1, true, none⟩, ⟨"home", 2, false, none⟩, ⟨"mail", 3, false, none⟩,
       ⟨"mail", 4, false, some ⟨"mail", [], [⟨"integer", []⟩]⟩⟩,
       ⟨"mail", 4, true, some ⟨"mail", [], [⟨"ignore", []⟩]⟩⟩] },
   { name := "string", flags := [.string] },
   { name := "Place", flags := [.object], members := [⟨"zip", 1, true, none⟩] },
   { name := "string | undefined", flags := [.string, .union], union := [1, 5] },
   { name := "number", flags := [.number] },
   { name := "undefined", flags := [.undefined] }]

def contactNode : Node :=
  [("type", .str "object"),
    ("properties", .obj [("mail", .obj [("type", .str "integer")]),
      ("home", .obj [("type", .str "object"),
        ("properties", .obj [("zip", .obj [("type", .str "string")])])])]),
    ("required", .arr [.str "home", .str "mail"])]

theorem compile_requiredNames_contact :
    ((model contactTable).compile 0).outcome = .ok contactNode ∧
      (model contactTable).RequiredFits (keptOf (record contactTable 0).members) contactNode ∧
      contactNode.requiredNames = ["home", "mail"] := by
  have hnode : ((model contactTable).compile 0).outcome = .ok contactNode := rfl
  obtain ⟨hcontact, -⟩ := compile_requiredNames (model contactTable) 0 contactNode hnode
  have hlists := hcontact rfl _ rfl
  refine ⟨hnode, hlists.fits_iff.mpr ?_, rfl⟩
  simp only [model_isOptional]
  decide

end Scripted

namespace Module

attribute [local instance] Environment.plain

/-- A model of four fields with two public names; of the second one the last field has a default. -/
def sharedAliases : Declaration where
  name := "P"
  flavour := .model
  bases := []
  doc := none
  body :=
    let field (default publicName : Option String) : Initial :=
      .field (default.map .str) false publicName none
    [.annotated "a" (.cls (.builtin "int")) (field none "x"),
      .annotated "b" (.cls (.builtin "str")) (field none "x"),
      .annotated "c" (.cls (.builtin "int")) (field none "y"),
      .annotated "d" (.cls (.builtin "str")) (field "s" "y")]
  source := .faithful

/-- The two fields of the first name are listed twice, and the second name is listed although the
field whose schema stands under it is optional. -/
theorem compile_sharedAliases :
    ∃ m node members, m = Module.empty.declaring "P" sharedAliases ∧
      (m.model.compile (.cls (.declared 0 "P" .model))).outcome = .ok node ∧
      (m.model.members (.cls (.declared 0 "P" .model))).outcome = .ok members ∧
      node.requiredNames = ["x", "x", "y"] ∧
      (lastNamed Member.name (TypeModel.keptOf members) "y").map Member.optional = some true ∧
      ¬ m.model.RequiredFits (TypeModel.keptOf members) node := by
  have hnode : ((Module.empty.declaring "P" sharedAliases).model.compile
      (.cls (.declared 0 "P" .model))).outcome.toOption.map Node.requiredNames =
        some ["x", "x", "y"] := by
    decide +kernel
  have hmembers : ((Module.empty.declaring "P" sharedAliases).model.members
      (.cls (.declared 0 "P" .model))).outcome.toOption.map (fun members ↦
        (lastNamed Member.name (TypeModel.keptOf members) "y").map Member.optional) =
          some (some true) := by
    decide +kernel
  obtain ⟨node, hcompiled, hlisted⟩ := Option.map_eq_some_iff.mp hnode
  obtain ⟨members, hreported, hlast⟩ := Option.map_eq_some_iff.mp hmembers
  refine ⟨_, node, members, rfl, Outcome.eq_ok_of_toOption hcompiled,
    Outcome.eq_ok_of_toOption hreported, hlisted, hlast, fun hfits ↦ ?_⟩
  exact absurd (hlisted ▸ hfits.distinct) (by decide)

end Module

end Schematic
