import Schematic.Proofs.Classification
import Schematic.Proofs.Nesting

/-!
# Related type models

The compiler knows a type by the answers that a type model gives about it. Let two models
give the same answers about related types, their parts being related again. Then a related
type has the same schema under both, or the same error, whatever the bounds on the nesting
are. Types are related here by any relation and the identities of structs by another one, which
has to keep apart what is kept apart.
-/

namespace Schematic

/-- Two results of which both are values, related to each other, or both are the same failure. -/
inductive Outcome.Related {α β : Type} (P : α → β → Prop) :
    Except Failure α → Except Failure β → Prop where
  | ok {a : α} {b : β} (h : P a b) : Related P (.ok a) (.ok b)
  | error (failure : Failure) : Related P (.error failure) (.error failure)

theorem Outcome.Related.refl {α : Type} {P : α → α → Prop} (hP : ∀ a, P a a)
    (result : Except Failure α) : Outcome.Related P result result := by
  cases result with
  | ok value => exact .ok (hP value)
  | error failure => exact .error failure

theorem Outcome.Related.bind_eq {α β γ : Type} {P : α → β → Prop} {left : Except Failure α}
    {right : Except Failure β} (h : Outcome.Related P left right) {f : α → Except Failure γ}
    {g : β → Except Failure γ} (heq : ∀ a b, P a b → g b = f a) : right >>= g = left >>= f := by
  cases h with
  | ok h => exact heq _ _ h
  | error failure => rfl

/-- Members that differ in their types only, which are related. -/
structure Member.Related {σ τ : Type} (R : σ → τ → Prop) (a : Member σ) (b : Member τ) : Prop where
  name : b.name = a.name
  type : R a.type b.type
  optional : b.optional = a.optional
  symbol : b.symbol = a.symbol

/-- Lists that are related entry by entry are traversed alike. -/
theorem Logged.outcome_mapM_congr {α β γ : Type} {R : α → β → Prop} {f : α → Logged γ}
    {g : β → Logged γ} {xs : List α} {ys : List β} (h : List.Forall₂ R xs ys)
    (heq : ∀ x y, R x y → (g y).outcome = (f x).outcome) :
    (ys.mapM g).outcome = (xs.mapM f).outcome := by
  induction h with
  | nil => rfl
  | cons hfirst hrest ih =>
    simp only [List.mapM_cons, Logged.outcome_bind, heq _ _ hfirst, ih, Logged.outcome_pure]

namespace TypeModel

variable {τ ι : Type}

/-- Two models give the same answers about types related by `R`, with parts related by `R` and
identities related by `S`. -/
structure Simulates [BEq ι] (M N : TypeModel τ ι) (R : τ → τ → Prop) (S : ι → ι → Prop) : Prop where
  symbol {a b : τ} (h : R a b) : N.symbol b = M.symbol a
  flags {a b : τ} (h : R a b) : N.flags b = M.flags a
  literal {a b : τ} (h : R a b) : N.literal b = M.literal a
  unionMembers {a b : τ} (h : R a b) : List.Forall₂ R (M.unionMembers a) (N.unionMembers b)
  isArray {a b : τ} (h : R a b) : N.isArray b = M.isArray a
  element? {a b : τ} (h : R a b) : Option.Rel R (M.element? a) (N.element? b)
  isTuple {a b : τ} (h : R a b) : N.isTuple b = M.isTuple a
  members {a b : τ} (h : R a b) : Outcome.Related (List.Forall₂ (Member.Related R))
    (M.members a).outcome (N.members b).outcome
  render {a b : τ} (h : R a b) : N.render b = M.render a
  identity {a b : τ} (h : R a b) (hobject : M.classify a = .ok .object) :
    S (M.identity a) (N.identity b)
  beq {i j i' j' : ι} (h : S i j) (h' : S i' j') : (j == j') = (i == i')

namespace Simulates

variable [BEq ι] {M N : TypeModel τ ι} {R : τ → τ → Prop} {S : ι → ι → Prop} {a b : τ}

theorem resembles (h : Simulates M N R S) : Resembles M N R where
  flags := h.flags
  literal := h.literal
  unionMembers := h.unionMembers
  isArray := h.isArray
  isTuple := h.isTuple
  render := h.render

theorem isOptional (h : Simulates M N R S) {member member' : Member τ}
    (hmember : Member.Related R member member') : N.isOptional member' = M.isOptional member := by
  unfold TypeModel.isOptional
  rw [hmember.optional, h.resembles.includesUndefined hmember.type]

/-! ## Compilations -/

/-- Open structs under two models, one by one. -/
abbrev Paths (S : ι → ι → Prop) (active active' : Open ι) : Prop :=
  List.Forall₂ (fun entry entry' ↦ S entry.1 entry'.1 ∧ entry'.2 = entry.2) active active'

theorem isOpen_iff (h : Simulates M N R S) {active active' : Open ι}
    (hactive : Paths S active active') {i j : ι} (hij : S i j) :
    IsOpen active' j ↔ IsOpen active i := by
  unfold IsOpen
  induction hactive with
  | nil => rfl
  | cons hfirst hrest ih =>
    rw [List.any_cons, List.any_cons, Bool.or_eq_true, Bool.or_eq_true, ih, h.beq hfirst.1 hij]

omit [BEq ι] in
theorem names_eq {active active' : Open ι} (hactive : Paths S active active') :
    active'.map Prod.snd = active.map Prod.snd :=
  map_eq_of_forall₂ hactive fun _ _ hentry ↦ hentry.2

variable {compileType compileType' : Open ι → τ → Logged Node}

theorem outcome_compileMember (h : Simulates M N R S) {compileType compileType' : τ → Logged Node}
    (hcompile : ∀ a b, R a b → (compileType' b).outcome = (compileType a).outcome)
    (typeName : String) {member member' : Member τ} (hmember : Member.Related R member member') :
    (N.compileMember compileType' typeName member').outcome =
      (M.compileMember compileType typeName member).outcome :=
  outcome_compileMember_congr hmember.name hmember.symbol (h.isOptional hmember)
    (hcompile _ _ hmember.type) typeName

/-- Related types have one node, given that their parts have. -/
theorem outcome_build (h : Simulates M N R S)
    (hcompile : ∀ active active' a b, Paths S active active' → R a b →
      (compileType' active' b).outcome = (compileType active a).outcome)
    {active active' : Open ι} (hactive : Paths S active active') (hab : R a b)
    {category : Category} (hcategory : M.classify a = .ok category) :
    (N.build compileType' active' b category).outcome =
      (M.build compileType active a category).outcome := by
  cases category with
  | string | number | boolean | null | undefined => rfl
  | stringLiteral | numberLiteral => simp only [build, h.literal hab]
  | booleanLiteral => simp only [build, h.resembles.isTrueLiteral hab]
  | enum => simp only [build, h.resembles.enumValues hab]
  | union => simp only [build, h.resembles.buildUnion hab]
  | tuple | intersection | unsupported => simp only [build, h.resembles.reject hab]
  | array =>
    unfold build
    have helement := h.element? hab
    cases hM : M.element? a with
    | none =>
      rw [hM] at helement
      cases hN : N.element? b with
      | none => rfl
      | some element' => simp [hN] at helement
    | some element =>
      rw [hM] at helement
      cases hN : N.element? b with
      | none => simp [hN] at helement
      | some element' =>
        rw [hN] at helement
        simp only [Logged.outcome_bind, hcompile _ _ _ _ hactive (Option.rel_some_some.mp helement)]
  | object =>
    have hidentity := h.identity hab hcategory
    have hrender := h.render hab
    by_cases hopen : IsOpen active (M.identity a)
    · rw [build_object_of_open M hopen,
        build_object_of_open N ((h.isOpen_iff hactive hidentity).mpr hopen), names_eq hactive, hrender]
    have hclosed : ¬ IsOpen active' (N.identity b) :=
      fun hopen' ↦ hopen ((h.isOpen_iff hactive hidentity).mp hopen')
    have hpath : Paths S (M.enter active a .object) (N.enter active' b .object) :=
      List.rel_append hactive (.cons ⟨hidentity, hrender⟩ .nil)
    rw [build_object_of_closed M hopen, build_object_of_closed N hclosed, hrender,
      Logged.outcome_bind, Logged.outcome_bind]
    refine (h.members hab).bind_eq fun members members' hmembers ↦ ?_
    rw [Logged.outcome_bind, Logged.outcome_bind,
      Logged.outcome_mapM_congr hmembers fun member member' hmember ↦
        h.outcome_compileMember (fun a b ↦ hcompile _ _ a b hpath) (M.render a) hmember]

theorem outcome_compileUnder (h : Simulates M N R S) (depth : Nat) {active active' : Open ι}
    (hactive : Paths S active active') (hab : R a b) :
    (N.compileUnder depth active' b).outcome = (M.compileUnder depth active a).outcome := by
  induction depth generalizing active active' a b with
  | zero => rfl
  | succ depth ih =>
    simp only [compileUnder, compileStep, Logged.outcome_bind, Logged.outcome_lift, h.symbol hab,
      h.resembles.classify hab]
    refine Outcome.bind_congr fun tags _ ↦ Outcome.bind_congr fun category hcategory ↦ ?_
    rw [h.outcome_build (fun _ _ _ _ ↦ ih) hactive hab hcategory]

/-- Related types have the same schema or the same error. -/
theorem outcome_compile (h : Simulates M N R S) (ha : Ends M a) (hb : Ends N b) (hab : R a b) :
    (N.compile b).outcome = (M.compile a).outcome := by
  have hleft := ha.settled _ (Nat.le_max_left (M.depth a) (N.depth b))
  have hright := hb.settled _ (Nat.le_max_right (M.depth a) (N.depth b))
  have hnode := h.outcome_compileUnder (max (M.depth a) (N.depth b)) .nil hab
  rw [hleft, hright] at hnode
  rw [TypeModel.outcome_compile, TypeModel.outcome_compile, hnode]

end Simulates

end TypeModel

end Schematic
