import Schematic.Proofs.Descent

/-!
# Bounded nesting

A step compiles the successors of its type and nothing else, each under the structs that
are open then. So what a compilation does is decided by what it gets to, and where every
descent from a root is shorter than the bound on the nesting, the bound never shows: with
any larger one the compilation is the same, records included, and a failure arises at a
type that it gets to.
-/

namespace Schematic

namespace TypeModel

open Relation

variable {τ ι : Type}

/-- An ignored member does not ask for the node of its type. -/
theorem compileMember_congr {model : TypeModel τ ι} {compileType compileType' : τ → Logged Node}
    {typeName : String} {member : Member τ}
    (h : Symbol.hasTag Constraint.ignoreTag member.symbol = false →
      compileType member.type = compileType' member.type) :
    model.compileMember compileType typeName member =
      model.compileMember compileType' typeName member := by
  unfold compileMember
  refine Logged.bind_congr fun tags htags ↦ Logged.bind_congr fun optional _ ↦ ?_
  rw [Symbol.contains_tagTextsOf htags]
  split
  · rfl
  · rename_i hkept
    rw [h (by simpa using hkept)]

variable [BEq ι]

/-- A step compiles the elements of an array, or the members of a struct that is not open. -/
theorem build_congr {model : TypeModel τ ι} {compileType compileType' : Open ι → τ → Logged Node}
    {active : Open ι} {type : τ} {category : Category}
    (hcategory : model.classify type = .ok category)
    (helement : ∀ element, model.ElementStep type element →
      compileType active element = compileType' active element)
    (hmember : ¬ IsOpen active (model.identity type) → ∀ part, model.MemberStep type part →
      compileType (model.enter active type .object) part =
        compileType' (model.enter active type .object) part) :
    model.build compileType active type category =
      model.build compileType' active type category := by
  cases category with
  | array =>
    simp only [build]
    cases hsome : model.element? type with
    | none => rfl
    | some element => simp only [helement element ⟨hcategory, hsome⟩]
  | object =>
    by_cases hopen : IsOpen active (model.identity type)
    · rw [build_object_of_open model hopen, build_object_of_open model hopen]
    · rw [build_object_of_closed model hopen, build_object_of_closed model hopen]
      refine Logged.bind_congr fun members hmembers ↦ ?_
      refine congrArg (· >>= _) (Logged.mapM_congr fun member hlisted ↦ ?_)
      refine compileMember_congr fun hkept ↦ ?_
      exact hmember hopen member.type ⟨hcategory, members, hmembers, member, hlisted, hkept, rfl⟩
  | _ => rfl

/-- A step asks for the nodes of its parts only, and for those of members only where a struct is
opened. -/
theorem compileStep_congr {model : TypeModel τ ι} {compileType compileType' : Open ι → τ → Logged Node}
    {active : Open ι} {type : τ}
    (helement : ∀ element, model.ElementStep type element →
      compileType active element = compileType' active element)
    (hmember : ¬ IsOpen active (model.identity type) → ∀ part, model.MemberStep type part →
      compileType (model.enter active type .object) part =
        compileType' (model.enter active type .object) part) (depth depth' : Nat) :
    model.compileStep compileType depth active type =
      model.compileStep compileType' depth' active type := by
  unfold compileStep
  refine Logged.bind_congr fun tags _ ↦ Logged.bind_congr fun category hcategory ↦ ?_
  exact congrArg (· >>= _) (build_congr hcategory helement hmember)

/-- Where every descent that goes on from a type is shorter than the bound, a larger bound changes
nothing. -/
theorem compileUnder_of_shorter {model : TypeModel τ ι} {root : τ} {depth depth' : Nat}
    (hdepth : depth ≤ depth') {steps : Nat} {frames : List τ} {type : τ}
    (hreached : Reached model root steps frames type)
    (hshorter : ∀ steps' frames' type', Reached model root steps' frames' type' →
      steps' < steps + depth) :
    model.compileUnder depth' (model.opened frames) type =
      model.compileUnder depth (model.opened frames) type := by
  induction depth generalizing depth' steps frames type with
  | zero =>
    have hself := hshorter steps frames type hreached
    omega
  | succ depth ih =>
    obtain ⟨deeper, rfl⟩ : ∃ deeper, depth' = deeper + 1 := ⟨depth' - 1, by omega⟩
    have hdeeper : depth ≤ deeper := by omega
    have hnext : ∀ steps' frames' type', Reached model root steps' frames' type' →
        steps' < steps + 1 + depth := by
      intro steps' frames' type' h
      have hlt := hshorter steps' frames' type' h
      omega
    refine compileStep_congr (fun element helement ↦ ?_) (fun hclosed part hpart ↦ ?_) deeper depth
    · exact ih hdeeper (hreached.element helement) hnext
    · rw [enter, ← opened_append]
      exact ih hdeeper (hreached.member hclosed hpart) hnext

/-! ## Structs that are open together -/

structure Distinct (model : TypeModel τ ι) (types : List τ) : Prop where
  classified : ∀ type ∈ types, model.classify type = .ok .object
  distinct : types.Pairwise fun a b ↦ ¬ (model.identity a == model.identity b) = true

/-- The structs that are open at some moment of a compilation, outermost first: those around a type
that it gets to, and then that type itself if it is a struct. -/
inductive OpenTogether (model : TypeModel τ ι) (root : τ) : List τ → Prop where
  | around {steps : Nat} {frames : List τ} {type : τ}
      (h : Reached model root steps frames type) : OpenTogether model root frames
  | within {steps : Nat} {frames : List τ} {type : τ}
      (h : Reached model root steps frames type)
      (hclosed : ¬ IsOpen (model.opened frames) (model.identity type))
      (hobject : model.classify type = .ok .object) : OpenTogether model root (frames ++ [type])

/-- A struct that is not open may be added. -/
theorem Distinct.append {model : TypeModel τ ι} {frames : List τ} {type : τ}
    (h : Distinct model frames) (hclosed : ¬ IsOpen (model.opened frames) (model.identity type))
    (hobject : model.classify type = .ok .object) : Distinct model (frames ++ [type]) where
  classified := by
    intro frame hframe
    rcases List.mem_append.mp hframe with hold | hnew
    · exact h.classified frame hold
    · rw [List.mem_singleton.mp hnew]
      exact hobject
  distinct := by
    refine List.pairwise_append.mpr ⟨h.distinct, List.pairwise_singleton _ _, ?_⟩
    intro frame hframe last hlast hsame
    rw [List.mem_singleton.mp hlast] at hsame
    exact hclosed (List.any_eq_true.mpr ⟨_, List.mem_map_of_mem hframe, hsame⟩)

theorem Reached.distinct {model : TypeModel τ ι} {root type : τ} {steps : Nat} {frames : List τ}
    (h : Reached model root steps frames type) : Distinct model frames := by
  induction h with
  | root => exact ⟨by simp, .nil⟩
  | element _ _ ih => exact ih
  | member _ hclosed hmember ih => exact ih.append hclosed hmember.1

theorem OpenTogether.distinct {model : TypeModel τ ι} {root : τ} {frames : List τ}
    (h : OpenTogether model root frames) : Distinct model frames := by
  cases h with
  | around h => exact h.distinct
  | within h hclosed hobject => exact h.distinct.append hclosed hobject

/-- Structs of which none occurs twice are no more than the structs in a list that has a
representative of each. -/
theorem Distinct.length_le {model : TypeModel τ ι} {types objects : List τ}
    (h : Distinct model types) {representative : τ → τ}
    (hlisted : ∀ type, model.classify type = .ok .object → representative type ∈ objects)
    (hsame : ∀ a b, model.classify a = .ok .object → model.classify b = .ok .object →
      representative a = representative b → (model.identity a == model.identity b) = true) :
    types.length ≤ objects.length := by
  have hdistinct : (types.map representative).Nodup := by
    refine List.pairwise_map.mpr (h.distinct.imp_of_mem fun {a b} ha hb hne heq ↦ hne ?_)
    exact hsame a b (h.classified a ha) (h.classified b hb) heq
  have hsubset : types.map representative ⊆ objects := by
    intro object hobject
    obtain ⟨type, htype, rfl⟩ := List.mem_map.mp hobject
    exact hlisted type (h.classified type htype)
  calc
    types.length = (types.map representative).length := (List.length_map representative).symm
    _ ≤ objects.length := hdistinct.length_le_of_subset hsubset

/-! ## Guards -/

/-- Whether a struct is opened where a type is compiled. -/
def opens (model : TypeModel τ ι) (active : Open ι) (type : τ) : Bool :=
  (model.classify type matches .ok .object) &&
    !active.any fun entry ↦ entry.1 == model.identity type

section

variable {model : TypeModel τ ι} {root type : τ} {steps limit : Nat} {frames arrays : List τ}
  (hends : ∀ type, ReflTransGen model.Successor root type →
    ¬ TransGen model.ElementStep type type)
  (harrays : ∀ type element, ReflTransGen model.Successor root type →
    model.ElementStep type element → type ∈ arrays)

include hends harrays

/-- The arrays that were passed since the innermost struct are distinct, and each struct has at most as
many before it as there are arrays. -/
theorem exists_trail (h : Reached model root steps frames type) :
    ∃ trail : List τ, trail.Nodup ∧
      (∀ array ∈ trail, array ∈ arrays ∧ TransGen model.ElementStep array type) ∧
      steps ≤ frames.length * (arrays.length + 1) + trail.length := by
  induction h with
  | root => exact ⟨[], List.nodup_nil, by simp, Nat.zero_le _⟩
  | @element steps frames type element hreached helement ih =>
    obtain ⟨trail, hdistinct, htrail, hsteps⟩ := ih
    -- An array that is on the trail already would lead to itself.
    have hfresh : type ∉ trail := fun hmem ↦ hends type hreached.successors (htrail type hmem).2
    refine ⟨type :: trail, List.nodup_cons.mpr ⟨hfresh, hdistinct⟩, ?_, ?_⟩
    · refine List.forall_mem_cons.mpr ⟨⟨?_, .single helement⟩, fun array harray ↦ ?_⟩
      · exact harrays type element hreached.successors helement
      · exact ⟨(htrail array harray).1, (htrail array harray).2.tail helement⟩
    · rw [List.length_cons]
      omega
  | @member steps frames type part _ _ _ ih =>
    obtain ⟨trail, hdistinct, htrail, hsteps⟩ := ih
    -- The trail starts again behind a struct, and its length is paid for by the new frame.
    have hshort : trail.length ≤ arrays.length :=
      hdistinct.length_le_of_subset fun array harray ↦ (htrail array harray).1
    refine ⟨[], List.nodup_nil, by simp, ?_⟩
    rw [List.length_append, List.length_singleton, Nat.add_mul]
    simp only [List.length_nil]
    omega

/-- Where no cycle below a root leads through arrays alone, a descent passes each array once for every
struct that it opens, and once more. -/
theorem steps_lt (hlimit : ∀ frames, OpenTogether model root frames → frames.length ≤ limit)
    (h : Reached model root steps frames type) :
    steps < (limit + 1) * (arrays.length + 1) := by
  obtain ⟨trail, hdistinct, htrail, hsteps⟩ := exists_trail hends harrays h
  have hshort : trail.length ≤ arrays.length :=
    hdistinct.length_le_of_subset fun array harray ↦ (htrail array harray).1
  calc
    steps ≤ frames.length * (arrays.length + 1) + trail.length := hsteps
    _ ≤ limit * (arrays.length + 1) + arrays.length :=
      Nat.add_le_add (Nat.mul_le_mul_right _ (hlimit frames (.around h))) hshort
    _ < (limit + 1) * (arrays.length + 1) := by
      rw [Nat.add_mul limit]
      omega

end

/-! ## Compilations that end -/

/-- A compilation ends: its descents are shorter than the bound on the nesting, which therefore
decides nothing, and it yields a node or a failure of some type that it gets to. -/
structure Ends (model : TypeModel τ ι) (root : τ) : Prop where
  shorter : ∀ steps frames type, Reached model root steps frames type → steps < model.depth root
  settled : ∀ depth, model.depth root ≤ depth →
    model.compileUnder depth [] root = model.compileUnder (model.depth root) [] root
  answered : (∃ node, (model.compile root).outcome = .ok node) ∨
    ∃ failure steps frames type, (model.compile root).outcome = .error failure ∧
      Reached model root steps frames type ∧ FailsAt model frames type failure

theorem ends_of_shorter {model : TypeModel τ ι} {root : τ}
    (hshorter : ∀ steps frames type, Reached model root steps frames type →
      steps < model.depth root) : Ends model root where
  shorter := hshorter
  settled := by
    intro depth hdepth
    have hroot : Reached model root 0 [] root := .root
    refine compileUnder_of_shorter hdepth hroot fun steps frames type h ↦ ?_
    rw [Nat.zero_add]
    exact hshorter steps frames type h
  answered := by
    cases houtcome : (model.compile root).outcome with
    | ok node => exact .inl ⟨node, rfl⟩
    | error failure =>
      obtain ⟨steps, frames, type, hreached, ⟨hsteps, -⟩ | hfails⟩ :=
        exists_failsAt_of_compile houtcome
      · exact absurd hsteps (Nat.ne_of_lt (hshorter steps frames type hreached))
      · exact .inr ⟨failure, steps, frames, type, rfl, hreached, hfails⟩

end TypeModel

end Schematic
