import Schematic.Proofs.Answers
import Schematic.Proofs.Classification

/-!
# Ignored members are invisible

Of an ignored optional member only the tags and the optionality are looked at; its type
is never compiled. So members of this kind can be deleted from the structs of a model,
whatever their types are, and every compilation keeps its outcome: the node, or the error
with all its attributes.

Two models that differ in the members of structs only are compared. The induction is on
the bound of the nesting, and a deletion is followed member by member.
-/

namespace Schematic

namespace TypeModel

variable {τ ι : Type}

def withMembers (model : TypeModel τ ι) (members : τ → Logged (List (Member τ))) :
    TypeModel τ ι :=
  { model with members }

/-- The members of a struct do not count for its category. -/
theorem sameShape_withMembers (model : TypeModel τ ι) (members : τ → Logged (List (Member τ))) :
    SameShape model (model.withMembers members) := by
  constructor <;> rfl

/-! ## Deleting members -/

/-- An ignored optional member with tags that can be read. -/
structure Dispensable (model : TypeModel τ ι) (member : Member τ) : Prop where
  readable : ∃ tags, Symbol.tagTextsOf member.symbol = .ok tags
  ignored : Symbol.hasTag Constraint.ignoreTag member.symbol = true
  optional : model.isOptional member = .ok true

/-- Some members with dispensable ones among them deleted. -/
inductive Deletion (model : TypeModel τ ι) : List (Member τ) → List (Member τ) → Prop where
  | nil : Deletion model [] []
  | keep (member : Member τ) {members rest : List (Member τ)} (h : Deletion model members rest) :
      Deletion model (member :: members) (member :: rest)
  | delete {member : Member τ} {members rest : List (Member τ)}
      (hmember : Dispensable model member) (h : Deletion model members rest) :
      Deletion model (member :: members) rest

/-- Whatever types are compiled to, a dispensable member yields no property. -/
theorem Dispensable.compileMember {model : TypeModel τ ι} {member : Member τ}
    (h : Dispensable model member) (compileType : τ → Logged Node) (typeName : String) :
    (model.compileMember compileType typeName member).outcome = .ok none := by
  obtain ⟨tags, htags⟩ := h.readable
  exact compileMember_eq_ok_iff.mpr (.ignored htags h.ignored h.optional)

/-- The properties of a traversal, with that of the first member in front. -/
theorem properties_mapM_cons {α β : Type} (yields : α → Logged (Option β)) (member : α)
    (members : List α) :
    ((member :: members).mapM yields).outcome.map (List.filterMap id) =
      (yields member).outcome >>= fun property ↦
        ((members.mapM yields).outcome.map (List.filterMap id)).map (property.toList ++ ·) := by
  rw [List.mapM_cons, Logged.outcome_bind]
  cases (yields member).outcome with
  | error failure => rfl
  | ok property =>
    simp only [Outcome.ok_bind, Logged.outcome_bind, Logged.outcome_pure]
    cases (members.mapM yields).outcome with
    | error failure => rfl
    | ok properties => cases property <;> rfl

/-- The properties that some members yield are those that the kept ones yield, and the first failure
is the same. -/
theorem Deletion.properties {model : TypeModel τ ι} {members rest : List (Member τ)}
    (h : Deletion model members rest) {yields yields' : Member τ → Logged (Option Property)}
    (hkept : ∀ member, (yields' member).outcome = (yields member).outcome)
    (hdeleted : ∀ member, Dispensable model member → (yields member).outcome = .ok none) :
    (rest.mapM yields').outcome.map (List.filterMap id) =
      (members.mapM yields).outcome.map (List.filterMap id) := by
  induction h with
  | nil => rfl
  | keep member h ih => rw [properties_mapM_cons, properties_mapM_cons, hkept, ih]
  | @delete member members rest hmember h ih =>
    rw [ih, properties_mapM_cons, hdeleted member hmember, Outcome.ok_bind]
    cases (members.mapM yields).outcome <;> rfl

/-- The members of every struct can be told, and dispensable ones among them are deleted. -/
def Deletes (model : TypeModel τ ι) (members : τ → Logged (List (Member τ))) : Prop :=
  ∀ type, ∃ all rest, (model.members type).outcome = .ok all ∧
    (members type).outcome = .ok rest ∧ Deletion model all rest

/-! ## Compiling without the deleted members -/

variable [BEq ι]

/-- The outcome of a struct that is not open: the node of the properties that its members yield. -/
theorem outcome_build_object (model : TypeModel τ ι) {compileType : Open ι → τ → Logged Node}
    {active : Open ι} {type : τ} {members : List (Member τ)}
    (hclosed : ¬ IsOpen active (model.identity type))
    (hmembers : (model.members type).outcome = .ok members) :
    (model.build compileType active type .object).outcome =
      ((members.mapM (model.compileMember (compileType (model.enter active type .object))
        (model.render type))).outcome.map (List.filterMap id)).map structNode := by
  simp only [build_object_of_closed model hclosed, Logged.outcome_bind, hmembers, Outcome.ok_bind]
  cases Logged.outcome (List.mapM _ members) <;> rfl

/-- A node is built alike where the compilation of its parts is alike. -/
theorem outcome_build_withMembers {model : TypeModel τ ι}
    {members : τ → Logged (List (Member τ))} (hmembers : model.Deletes members)
    {compileType compileType' : Open ι → τ → Logged Node}
    (hcompile : ∀ active part,
      (compileType' active part).outcome = (compileType active part).outcome)
    (active : Open ι) (type : τ) (category : Category) :
    ((model.withMembers members).build compileType' active type category).outcome =
      (model.build compileType active type category).outcome := by
  have hshape := (sameShape_withMembers model members).resembles
  cases category with
  | enum =>
    unfold build
    rw [hshape.enumValues rfl]
  | union => exact congrArg Logged.outcome (hshape.buildUnion (Eq.refl type))
  | array =>
    have hsame : (model.withMembers members).element? type = model.element? type := rfl
    cases helement : model.element? type with
    | none => simp only [build, hsame, helement]
    | some element =>
      simp only [build, hsame, helement, Logged.outcome_bind, hcompile]
  | object =>
    by_cases hopen : IsOpen active (model.identity type)
    · rw [build_object_of_open model hopen, build_object_of_open (model.withMembers members) hopen]
      rfl
    · obtain ⟨all, rest, hall, hrest, hdeletion⟩ := hmembers type
      rw [outcome_build_object model hopen hall,
        outcome_build_object (model.withMembers members) hopen hrest]
      refine congrArg (Except.map structNode) (hdeletion.properties (fun member ↦ ?_)
        fun member hmember ↦ hmember.compileMember _ _)
      exact outcome_compileMember_congr rfl rfl rfl (hcompile _ member.type) (model.render type)
  | _ => rfl

/-- Without dispensable members, every compilation has the same outcome. -/
theorem outcome_compileUnder_withMembers {model : TypeModel τ ι}
    {members : τ → Logged (List (Member τ))} (hmembers : model.Deletes members) (depth : Nat)
    (active : Open ι) (type : τ) :
    ((model.withMembers members).compileUnder depth active type).outcome =
      (model.compileUnder depth active type).outcome := by
  induction depth generalizing active type with
  | zero => rfl
  | succ depth ih =>
    simp only [compileUnder, compileStep, Logged.outcome_bind, Logged.outcome_lift,
      (sameShape_withMembers model members).resembles.classify rfl,
      outcome_build_withMembers hmembers ih]
    rfl

/-- Without dispensable members, every type has the same schema or the same error. -/
theorem outcome_compile_withMembers {model : TypeModel τ ι}
    {members : τ → Logged (List (Member τ))} (hmembers : model.Deletes members) (type : τ) :
    ((model.withMembers members).compile type).outcome = (model.compile type).outcome := by
  rw [outcome_compile, outcome_compile]
  exact outcome_compileUnder_withMembers hmembers (model.depth type) [] type

end TypeModel

namespace Scripted

open TypeModel

/-! ## Tables -/

def unchosen (chosen : Nat → Bool) (members : List (Member Nat)) : List (Member Nat) :=
  (members.zipIdx.filter fun entry ↦ !chosen entry.2).map Prod.fst

/-- The table without the chosen members, each given by its struct and its position there. -/
def deleteMembers (table : Table) (chosen : Nat → Nat → Bool) : Table :=
  table.mapIdx fun type entry ↦ { entry with members := unchosen (chosen type) entry.members }

def Named (table : Table) : Prop :=
  ∀ entry ∈ table, (∀ s ∈ entry.symbol, ∀ tag ∈ s.tags, tag.name ≠ "") ∧
    ∀ member ∈ entry.members, ∀ s ∈ member.symbol, ∀ tag ∈ s.tags, tag.name ≠ ""

/-- Every chosen member is tagged to be ignored and optional. -/
def Ignorable (table : Table) (chosen : Nat → Nat → Bool) : Prop :=
  ∀ entry ∈ table.zipIdx, ∀ member ∈ entry.1.members.zipIdx, chosen entry.2 member.2 = true →
    Symbol.hasTag Constraint.ignoreTag member.1.symbol = true ∧ isOptional table member.1 = true

/-- The entry of a type keeps everything but the chosen members. -/
theorem record_deleteMembers (table : Table) (chosen : Nat → Nat → Bool) (type : Nat) :
    record (deleteMembers table chosen) type =
      { record table type with members := unchosen (chosen type) (record table type).members } := by
  unfold record deleteMembers
  rw [List.getElem?_mapIdx]
  cases table[type]? <;> rfl

theorem model_deleteMembers (table : Table) (chosen : Nat → Nat → Bool) :
    model (deleteMembers table chosen) =
      (model table).withMembers fun type ↦
        .ok (unchosen (chosen type) (record table type).members) := by
  have hlength : (deleteMembers table chosen).length = table.length := List.length_mapIdx
  simp only [model, withMembers, record_deleteMembers, nesting, hlength]

theorem deletion_of_filter {model : TypeModel Nat Nat} {chosen : Nat → Bool}
    {entries : List (Member Nat × Nat)}
    (h : ∀ entry ∈ entries, chosen entry.2 = true → model.Dispensable entry.1) :
    model.Deletion (entries.map Prod.fst)
      ((entries.filter fun entry ↦ !chosen entry.2).map Prod.fst) := by
  induction entries with
  | nil => exact .nil
  | cons entry entries ih =>
    obtain ⟨hentry, hentries⟩ := List.forall_mem_cons.mp h
    cases hchosen : chosen entry.2 with
    | true => simpa [hchosen] using .delete (hentry hchosen) (ih hentries)
    | false => simpa [hchosen] using .keep entry.1 (ih hentries)

/-- Deleting ignorable members of a table deletes dispensable members of its model. -/
theorem deletes_deleteMembers {table : Table} {chosen : Nat → Nat → Bool} (hnamed : Named table)
    (hchosen : Ignorable table chosen) :
    (model table).Deletes fun type ↦ .ok (unchosen (chosen type) (record table type).members) := by
  intro type
  refine ⟨(record table type).members, _, rfl, rfl, ?_⟩
  have hentry : ∀ member ∈ (record table type).members.zipIdx, chosen type member.2 = true →
      (model table).Dispensable member.1 := by
    intro member hmember hmarked
    unfold record at hmember
    cases hget : table[type]? with
    | none => simp [hget] at hmember
    | some entry =>
      rw [hget, Option.getD_some] at hmember
      obtain ⟨hignored, hoptional⟩ := hchosen (entry, type)
        (List.mem_zipIdx_iff_getElem?.mpr hget) member hmember hmarked
      have hlisted : member.1 ∈ entry.members := List.fst_mem_of_mem_zipIdx hmember
      exact
        { readable := Symbol.tagTextsOf_eq_ok
            ((hnamed entry (List.mem_of_getElem? hget)).2 member.1 hlisted)
          ignored := hignored
          optional := by rw [model_isOptional, hoptional] }
  have hdeletion := deletion_of_filter hentry
  rwa [List.zipIdx_map_fst] at hdeletion

/-- Deleting members that are ignored and optional, at any structs of a table, leaves the schema or
the error of every type as it is, whatever the types of these members are. -/
theorem compile_deleteMembers (table : Table) (chosen : Nat → Nat → Bool) (hnamed : Named table)
    (hchosen : Ignorable table chosen) (type : Nat) :
    ((model (deleteMembers table chosen)).compile type).outcome =
      ((model table).compile type).outcome := by
  rw [model_deleteMembers]
  exact outcome_compile_withMembers (deletes_deleteMembers hnamed hchosen) type

/-- A team ignores its parent, which is a team, and a pair, which is a tuple; its lead ignores a
vault, which cannot be compiled, and a record that may be absent. -/
def teamTable : Table :=
  let ignored (name : String) : Option Symbol := some ⟨name, [], [⟨"ignore", []⟩]⟩
  [{ name := "Team", flags := [.object],
     members := [⟨"name", 3, false, none⟩, ⟨"parent", 0, true, ignored "parent"⟩,
       ⟨"pair", 4, true, ignored "pair"⟩, ⟨"lead", 1, false, none⟩] },
   { name := "Person", flags := [.object],
     members := [⟨"record", 5, false, ignored "record"⟩, ⟨"name", 3, false, none⟩,
       ⟨"vault", 2, true, ignored "vault"⟩] },
   { name := "Vault", flags := [.object], members := [⟨"key", 3, false, ignored "key"⟩] },
   { name := "string", flags := [.string] },
   { name := "[string, string]", isTuple := true },
   { name := "Record | undefined", flags := [.union], union := [2, 6] },
   { name := "undefined", flags := [.undefined] }]

def teamNode : Node :=
  [("type", .str "object"),
    ("properties", .obj [("name", .obj [("type", .str "string")]),
      ("lead", .obj [("type", .str "object"),
        ("properties", .obj [("name", .obj [("type", .str "string")])]),
        ("required", .arr [.str "name"])])]),
    ("required", .arr [.str "name", .str "lead"])]

/-- The members of a team and of its lead that are ignored. -/
def teamChosen (type position : Nat) : Bool :=
  (type = 0 && (position = 1 || position = 2)) || (type = 1 && position ≠ 1)

theorem compile_deleteMembers_team :
    Named teamTable ∧ Ignorable teamTable teamChosen ∧
      (record (deleteMembers teamTable teamChosen) 0).members.map Member.name = ["name", "lead"] ∧
      ((model (deleteMembers teamTable teamChosen)).compile 0).outcome = .ok teamNode ∧
      ((model (deleteMembers teamTable teamChosen)).compile 2).outcome =
        .error (.schema (.ignoreConflict "key") "Member 'key' of Vault is required") := by
  have hnamed : Named teamTable := by
    unfold Named
    decide
  have hchosen : Ignorable teamTable teamChosen := by
    unfold Ignorable
    decide
  have hteam : ((model teamTable).compile 0).outcome = .ok teamNode := rfl
  have hvault : ((model teamTable).compile 2).outcome =
      .error (.schema (.ignoreConflict "key") "Member 'key' of Vault is required") := rfl
  refine ⟨hnamed, hchosen, by decide, ?_, ?_⟩
  · rw [compile_deleteMembers teamTable teamChosen hnamed hchosen 0, hteam]
  · rw [compile_deleteMembers teamTable teamChosen hnamed hchosen 2, hvault]

end Scripted

end Schematic
