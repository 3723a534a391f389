import Mathlib.Data.List.Chain
import Mathlib.Logic.Relation
import Schematic.Proofs.Building

/-!
# Descending into types

Types form a graph: an array leads to its element type, and a struct to the types of the
members that are not ignored. A compilation descends along these edges and keeps the structs
that it has entered. Every failure of a compilation arises at one type that it gets to,
where no part is to blame, or when the bound on the nesting is exhausted.
-/

namespace Schematic.TypeModel

open Relation

variable {τ ι : Type}

/-! ## The graph of types -/

def ElementStep (model : TypeModel τ ι) (type element : τ) : Prop :=
  model.classify type = .ok .array ∧ model.element? type = some element

/-- A struct and the type of a member that is not ignored. -/
def MemberStep (model : TypeModel τ ι) (type part : τ) : Prop :=
  model.classify type = .ok .object ∧
    ∃ members, (model.members type).outcome = .ok members ∧
      ∃ member ∈ members, Symbol.hasTag Constraint.ignoreTag member.symbol = false ∧
        member.type = part

def Successor (model : TypeModel τ ι) (type part : τ) : Prop :=
  model.ElementStep type part ∨ model.MemberStep type part

/-- A struct and a type to which one of its members leads through arrays only. -/
def StructStep (model : TypeModel τ ι) (type target : τ) : Prop :=
  ∃ part, model.MemberStep type part ∧ ReflTransGen model.ElementStep part target

/-- A chain through elements is a chain of parts. -/
theorem ElementStep.successors {model : TypeModel τ ι} {type target : τ}
    (h : ReflTransGen model.ElementStep type target) : ReflTransGen model.Successor type target :=
  ReflTransGen.mono (fun _ _ ↦ .inl) _ _ h

/-- A step from struct to struct goes over at least one part. -/
theorem StructStep.successors {model : TypeModel τ ι} {type target : τ}
    (h : model.StructStep type target) : TransGen model.Successor type target := by
  obtain ⟨part, hmember, helements⟩ := h
  exact TransGen.head' (.inr hmember) (ElementStep.successors helements)

/-- A way through types leads through arrays alone, or passes through a struct. -/
theorem Successor.elements_or_member {model : TypeModel τ ι} {type target : τ}
    (h : TransGen model.Successor type target) : TransGen model.ElementStep type target ∨
      ∃ middle part, ReflTransGen model.Successor type middle ∧ model.MemberStep middle part ∧
        ReflTransGen model.Successor part target := by
  induction h with
  | single hstep => exact hstep.imp .single fun hmember ↦ ⟨_, _, .refl, hmember, .refl⟩
  | tail hsteps hstep ih =>
    rcases ih with helements | ⟨middle, part, hbefore, hmember, hafter⟩
    · exact hstep.imp helements.tail fun hmember ↦ ⟨_, _, hsteps.to_reflTransGen, hmember, .refl⟩
    · exact .inr ⟨middle, part, hbefore, hmember, hafter.tail hstep⟩

/-! ## Descents -/

/-- Structs as they are kept while they are open. -/
def opened (model : TypeModel τ ι) (frames : List τ) : Open ι :=
  frames.map fun type ↦ (model.identity type, model.render type)

/-- The last struct entered is the last one on the path. -/
theorem opened_append (model : TypeModel τ ι) (frames : List τ) (type : τ) :
    model.opened (frames ++ [type]) =
      model.opened frames ++ [(model.identity type, model.render type)] := by
  simp [opened]

/-- A struct is open if it has the identity of one on the path. -/
theorem isOpen_opened_iff [BEq ι] [LawfulBEq ι] {model : TypeModel τ ι} {frames : List τ}
    {identity : ι} :
    IsOpen (model.opened frames) identity ↔ identity ∈ frames.map model.identity := by
  simp [IsOpen, opened]

variable [BEq ι]

/-- The types that a compilation gets to in a number of steps, with the structs that are then
open, outermost first. -/
inductive Reached (model : TypeModel τ ι) (root : τ) : Nat → List τ → τ → Prop where
  | root : Reached model root 0 [] root
  | element {steps : Nat} {frames : List τ} {type element : τ}
      (h : Reached model root steps frames type) (helement : model.ElementStep type element) :
      Reached model root (steps + 1) frames element
  | member {steps : Nat} {frames : List τ} {type part : τ}
      (h : Reached model root steps frames type)
      (hclosed : ¬ IsOpen (model.opened frames) (model.identity type))
      (hmember : model.MemberStep type part) :
      Reached model root (steps + 1) (frames ++ [type]) part

namespace Reached

variable {model : TypeModel τ ι} {root type : τ} {steps : Nat} {frames : List τ}

theorem successors (h : Reached model root steps frames type) :
    ReflTransGen model.Successor root type := by
  induction h with
  | root => exact .refl
  | element _ helement ih => exact ih.tail (.inl helement)
  | member _ _ hmember ih => exact ih.tail (.inr hmember)

theorem classify_frame (h : Reached model root steps frames type) :
    ∀ frame ∈ frames, model.classify frame = .ok .object := by
  induction h with
  | root => simp
  | element _ _ ih => exact ih
  | member _ _ hmember ih =>
    intro frame hframe
    rcases List.mem_append.mp hframe with hold | hnew
    · exact ih frame hold
    · obtain rfl := List.mem_singleton.mp hnew
      exact hmember.1

/-- No struct is open twice. -/
theorem nodup_identities [LawfulBEq ι] (h : Reached model root steps frames type) :
    (frames.map model.identity).Nodup := by
  induction h with
  | root => exact List.nodup_nil
  | element _ _ ih => exact ih
  | member _ hclosed _ ih =>
    rw [isOpen_opened_iff] at hclosed
    rw [List.map_append]
    exact List.nodup_append.mpr
      ⟨ih, List.nodup_singleton _, fun _ hold _ hnew ↦ by
        rintro rfl
        exact hclosed (List.mem_singleton.mp hnew ▸ hold)⟩

/-- Each open struct leads to the next one, and the innermost to the type that is reached. -/
theorem isChain (h : Reached model root steps frames type) :
    (frames ++ [type]).IsChain model.StructStep := by
  induction h with
  | root => exact .singleton _
  | @element steps frames type element _ helement ih =>
    obtain ⟨hframes, -, hlast⟩ := List.isChain_append.mp ih
    refine List.isChain_append.mpr ⟨hframes, .singleton _, fun frame hframe target htarget ↦ ?_⟩
    obtain rfl : element = target := by simpa using htarget
    obtain ⟨part, hmember, helements⟩ := hlast frame hframe type rfl
    exact ⟨part, hmember, helements.tail helement⟩
  | @member steps frames type part _ _ hmember ih =>
    refine List.isChain_append.mpr ⟨ih, .singleton _, fun frame hframe target htarget ↦ ?_⟩
    obtain rfl : type = frame := by simpa using hframe
    obtain rfl : part = target := by simpa using htarget
    exact ⟨part, hmember, .refl⟩

/-- The outermost struct is reached through arrays only. -/
theorem head (h : Reached model root steps frames type) :
    ∃ first ∈ (frames ++ [type]).head?, ReflTransGen model.ElementStep root first := by
  induction h with
  | root => exact ⟨root, rfl, .refl⟩
  | @element steps frames type element _ helement ih =>
    cases frames with
    | nil =>
      obtain ⟨first, hfirst, helements⟩ := ih
      obtain rfl : type = first := by simpa using hfirst
      exact ⟨element, rfl, helements.tail helement⟩
    | cons frame frames => exact ih
  | @member steps frames type part _ _ _ ih =>
    obtain ⟨first, hfirst, helements⟩ := ih
    exact ⟨first, by rw [List.head?_append, hfirst]; rfl, helements⟩

end Reached

/-! ## Where successes lead -/

/-- A type is compiled under some open structs. -/
def Compiles (model : TypeModel τ ι) (depth : Nat) (type : τ) : Prop :=
  ∃ active node, (model.compileUnder depth active type).outcome = .ok node

/-- The node of a type that is compiled is built from parts that are compiled. -/
theorem Compiles.exists_built {model : TypeModel τ ι} {depth : Nat} {type : τ}
    {category : Category} (h : model.Compiles depth type)
    (hcategory : model.classify type = .ok category) :
    ∃ depth' base, depth = depth' + 1 ∧
      Built model (fun part _ ↦ model.Compiles depth' part) type category base := by
  obtain ⟨active, node, hnode⟩ := h
  cases depth with
  | zero => cases hnode
  | succ depth =>
    obtain ⟨tags, category', base, -, hcategory', -, hbase, -⟩ :=
      compileUnder_succ_eq_ok_iff.mp hnode
    obtain rfl : category' = category := Except.ok.inj (hcategory'.symm.trans hcategory)
    exact ⟨depth, base, rfl, hbase.mono fun _ node hpart ↦ ⟨_, node, hpart⟩⟩

/-- The parts of what compiles compile with less fuel. -/
theorem Compiles.successor {model : TypeModel τ ι} {depth : Nat} {type part : τ}
    (h : model.Compiles depth type) (hpart : model.Successor type part) :
    ∃ depth' < depth, model.Compiles depth' part := by
  rcases hpart with ⟨harray, helement⟩ | ⟨hobject, members, hmembers, member, hmember, hkept, rfl⟩
  · obtain ⟨depth', base, rfl, hbase⟩ := h.exists_built harray
    refine ⟨depth', Nat.lt_succ_self depth', ?_⟩
    cases hbase with
    | bareArray hnone => cases hnone.symm.trans helement
    | @array element items hsome hitems =>
      obtain rfl : element = part := Option.some.inj (hsome.symm.trans helement)
      exact hitems
  · obtain ⟨depth', base, rfl, hbase⟩ := h.exists_built hobject
    refine ⟨depth', Nat.lt_succ_self depth', ?_⟩
    cases hbase with
    | @object members' properties hmembers' hproperties =>
      obtain rfl : members' = members := Except.ok.inj (hmembers'.symm.trans hmembers)
      obtain ⟨property, -, hbuilt⟩ := Outcome.exists_of_mem_left hproperties hmember
      cases hbuilt with
      | ignored _ hignored _ => cases hkept.symm.trans hignored
      | kept _ _ _ hpart _ => exact hpart

theorem Compiles.of_transGen {model : TypeModel τ ι} {depth : Nat} {type part : τ}
    (h : model.Compiles depth type) (hpart : TransGen model.Successor type part) :
    ∃ depth' < depth, model.Compiles depth' part := by
  induction hpart with
  | single hpart => exact h.successor hpart
  | tail _ hpart ih =>
    obtain ⟨middle, hmiddle, hcompiles⟩ := ih
    obtain ⟨depth', hlt, hcompiles'⟩ := hcompiles.successor hpart
    exact ⟨depth', hlt.trans hmiddle, hcompiles'⟩

theorem Compiles.of_reflTransGen {model : TypeModel τ ι} {depth : Nat} {type part : τ}
    (h : model.Compiles depth type) (hpart : ReflTransGen model.Successor type part) :
    ∃ depth', model.Compiles depth' part := by
  rcases reflTransGen_iff_eq_or_transGen.mp hpart with rfl | htrans
  · exact ⟨depth, h⟩
  · obtain ⟨depth', -, hcompiles⟩ := h.of_transGen htrans
    exact ⟨depth', hcompiles⟩

/-- Around a cycle, a compilation would need a smaller bound each time. -/
theorem Compiles.not_transGen_self {model : TypeModel τ ι} {depth : Nat} {type : τ}
    (h : model.Compiles depth type) : ¬ TransGen model.Successor type type := by
  intro hcycle
  induction depth using Nat.strong_induction_on with
  | _ depth ih =>
    obtain ⟨depth', hlt, hcompiles⟩ := h.of_transGen hcycle
    exact ih depth' hlt hcompiles

/-! ## Where failures arise -/

/-- Failures at a type that none of its parts is to blame for. -/
inductive FailsAt (model : TypeModel τ ι) (frames : List τ) (type : τ) (failure : Failure) :
    Prop where
  | tags (htags : Symbol.tagTextsOf (model.symbol type) = .error failure)
  | category (hcategory : model.classify type = .error failure)
  | build {category : Category} (hcategory : model.classify type = .ok category)
      (hbuild : BuildFailed model
        (fun _ node ↦ ∃ gate, Constraint.gate (Dict.get? "type" node) = .ok gate)
        (fun _ _ ↦ False) (model.opened frames) type category failure)
  | pass {tags : Dict String} {gate : Constraint.Gate} {base : Node}
      (htags : Symbol.tagTextsOf (model.symbol type) = .ok tags)
      (hgate : Constraint.gate (Dict.get? "type" base) = .ok gate)
      (hfailure : (Constraint.applied base tags
        (Symbol.descriptionOf (model.symbol type))).outcome = .error failure)

/-- A part is to blame for a failure, or none is. -/
theorem BuildFailed.local_or_part {model : TypeModel τ ι} {compiled compiled' : τ → Node → Prop}
    {failed : τ → Failure → Prop} {active : Open ι} {type : τ} {category : Category}
    {failure : Failure} (hcompiled : ∀ part node, compiled part node → compiled' part node)
    (hcategory : model.classify type = .ok category)
    (h : BuildFailed model compiled failed active type category failure) :
    BuildFailed model compiled' (fun _ _ ↦ False) active type category failure ∨
      (category = .array ∧ ∃ part, model.ElementStep type part ∧ failed part failure) ∨
      (category = .object ∧ ¬ IsOpen active (model.identity type) ∧
        ∃ part, model.MemberStep type part ∧ failed part failure) := by
  cases h with
  | literal hliteral hfailure => exact .inl (.literal hliteral hfailure)
  | enumValues hfailure => exact .inl (.enumValues hfailure)
  | unionValues hfailure => exact .inl (.unionValues hfailure)
  | complexUnion hvalues hempty => exact .inl (.complexUnion hvalues hempty)
  | element helement hfailure => exact .inr (.inl ⟨rfl, _, ⟨hcategory, helement⟩, hfailure⟩)
  | reentered hopen => exact .inl (.reentered hopen)
  | members hfailure => exact .inl (.members hfailure)
  | @member members member failure hopen hmembers hmem hfailure =>
    cases hfailure with
    | tags htags => exact .inl (.member hopen hmembers hmem (.tags htags))
    | optional hoptional => exact .inl (.member hopen hmembers hmem (.optional hoptional))
    | conflict hignored hoptional =>
      exact .inl (.member hopen hmembers hmem (.conflict hignored hoptional))
    | type hignored hfailure =>
      exact .inr (.inr ⟨rfl, hopen, member.type,
        ⟨hcategory, members, hmembers, member, hmem, hignored, rfl⟩, hfailure⟩)
    | pass hignored htags hnode hfailure =>
      exact .inl (.member hopen hmembers hmem (.pass hignored htags (hcompiled _ _ hnode) hfailure))
  | tuple => exact .inl .tuple
  | intersection => exact .inl .intersection
  | unsupported => exact .inl .unsupported

/-- A compilation that fails gets to a type that fails, or further than the bound on the nesting
allows. -/
theorem exists_failsAt {model : TypeModel τ ι} {root : τ} {depth : Nat} {failure : Failure}
    {steps : Nat} {frames : List τ} {type : τ} (hreached : Reached model root steps frames type)
    (h : (model.compileUnder depth (model.opened frames) type).outcome = .error failure) :
    ∃ steps' frames' type', Reached model root steps' frames' type' ∧
      (steps' = steps + depth ∧ failure = .unbounded ∨ model.FailsAt frames' type' failure) := by
  induction depth generalizing steps frames type with
  | zero =>
    obtain rfl : Failure.unbounded = failure := Except.error.inj h
    exact ⟨steps, frames, type, hreached, .inl ⟨rfl, rfl⟩⟩
  | succ depth ih =>
    rcases compileUnder_succ_eq_error h with
      htags | hclassify | ⟨category, hcategory, hbuild⟩ | ⟨tags, gate, base, htags, hgate, hpass⟩
    · exact ⟨steps, frames, type, hreached, .inr (.tags htags)⟩
    · exact ⟨steps, frames, type, hreached, .inr (.category hclassify)⟩
    · rcases hbuild.local_or_part (fun _ _ ↦ exists_gate_of_compileUnder) hcategory with
        hlocal | ⟨rfl, part, helement, hfailure⟩ | ⟨rfl, hclosed, part, hmember, hfailure⟩
      · exact ⟨steps, frames, type, hreached, .inr (.build hcategory hlocal)⟩
      · obtain ⟨steps', frames', type', hreached', hcause⟩ := ih (hreached.element helement) hfailure
        rw [Nat.add_assoc, Nat.add_comm 1 depth] at hcause
        exact ⟨steps', frames', type', hreached', hcause⟩
      · -- The members of a struct are compiled with the struct appended to the open ones.
        rw [enter, ← opened_append] at hfailure
        obtain ⟨steps', frames', type', hreached', hcause⟩ :=
          ih (hreached.member hclosed hmember) hfailure
        rw [Nat.add_assoc, Nat.add_comm 1 depth] at hcause
        exact ⟨steps', frames', type', hreached', hcause⟩
    · exact ⟨steps, frames, type, hreached, .inr (.pass htags hgate hpass)⟩

/-- A failure of a root comes from a type that is reached from it, or the fuel is used up. -/
theorem exists_failsAt_of_compile {model : TypeModel τ ι} {root : τ} {failure : Failure}
    (h : (model.compile root).outcome = .error failure) :
    ∃ steps frames type, Reached model root steps frames type ∧
      (steps = model.depth root ∧ failure = .unbounded ∨ model.FailsAt frames type failure) := by
  rw [outcome_compile] at h
  obtain ⟨steps, frames, type, hreached, hcause⟩ := exists_failsAt .root h
  rw [Nat.zero_add] at hcause
  exact ⟨steps, frames, type, hreached, hcause⟩

end Schematic.TypeModel
