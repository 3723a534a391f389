import Schematic.Proofs.PassFailures
import Schematic.Proofs.Subschema

/-!
# Limits of the stack

A text that is read as a value has to find room for the containers nested in it. Where there is none, the
pass ends, and with it the compilation. Nothing else depends on the room: a pass and a compilation on a
limited stack do what they do without a limit, or come to an end at such a text. No assumption is made
on how the room at one place of a compilation compares to that at another.
-/

namespace Schematic

namespace Constraint

/-- The keys that take the values of texts, with these texts. -/
def valuedEntries (tags : Dict String) : List (String × String) :=
  (Dict.get? defaultTag tags).toList.map (defaultTag, ·) ++
    (tags.filter fun entry ↦ !recognizedTags.contains entry.1).map fun entry ↦
      (extensionKey entry.1, entry.2)

theorem exists_mem_of_mem_valuedEntries {tags : Dict String} {entry : String × String}
    (h : entry ∈ valuedEntries tags) : ∃ tag, (tag, entry.2) ∈ tags := by
  rcases List.mem_append.mp h with hdefault | hextension
  · obtain ⟨text, htext, rfl⟩ := List.mem_map.mp hdefault
    exact ⟨defaultTag, Dict.mem_of_get?_eq_some (Option.mem_toList.mp htext)⟩
  · obtain ⟨found, hfound, rfl⟩ := List.mem_map.mp hextension
    exact ⟨found.1, (List.mem_filter.mp hfound).1⟩

/-! ## Runs -/

theorem run_append_of_failed {node : Node} {first : List Edit} {failure : Failure}
    (h : (run node first).failure? = some failure) (rest : List Edit) :
    run node (first ++ rest) = run node first := by
  induction first generalizing node with
  | nil => cases h
  | cons edit first ih =>
    cases edit with
    | set key value => exact ih h
    | dropped tag text =>
      have hrest : run node (first ++ rest) = run node first := ih h
      rw [List.cons_append, run, run, hrest]
    | failed failure => rfl

/-- A run without a failure goes on with the rest. -/
theorem run_append_of_none {node : Node} {first : List Edit} (h : (run node first).failure? = none)
    (rest : List Edit) :
    (run node (first ++ rest)).failure? = (run (run node first).node rest).failure? ∧
      (run node (first ++ rest)).node = (run (run node first).node rest).node := by
  induction first generalizing node with
  | nil => exact ⟨rfl, rfl⟩
  | cons edit first ih =>
    cases edit with
    | set key value => exact ih h
    | dropped tag text => exact ih h
    | failed failure => cases h

section

variable [Room]

/-- The text of the default, or of an extension, needs more room than there is. -/
def ExceedsRoom (tags : Dict String) : Prop :=
  ∃ entry ∈ valuedEntries tags, Json.exceedsRoom entry.2.toList = true

instance (tags : Dict String) : Decidable (ExceedsRoom tags) :=
  inferInstanceAs (Decidable (∃ entry ∈ valuedEntries tags, Json.exceedsRoom entry.2.toList = true))

theorem default?_append_extensions (tags : Dict String) :
    default? tags ++ extensions tags = (valuedEntries tags).map fun entry ↦ valued entry.1 entry.2 := by
  have hdefault : default? tags =
      ((Dict.get? defaultTag tags).toList.map (defaultTag, ·)).map fun entry ↦ valued entry.1 entry.2 := by
    unfold default?
    cases Dict.get? defaultTag tags <;> rfl
  rw [valuedEntries, List.map_append, hdefault, extensions, List.map_map (l := List.filter _ _)]
  rfl

/-- A text for which there is no room fails. -/
theorem valued_of_exceeds {text : String} (h : Json.exceedsRoom text.toList = true) (key : String) :
    valued key text = .failed .exhausted := by
  rw [valued, Tag.valueWithin, if_pos h]

theorem valued_of_fits {text : String} (h : Json.exceedsRoom text.toList = false) (key : String) :
    valued key text = .set key (Tag.value text) := by
  rw [valued, Tag.valueWithin, h]
  rfl

/-- Values for which there is room are set, and the first text without room ends the run. -/
theorem failure?_run_valued (entries : List (String × String)) (node : Node) :
    (run node (entries.map fun entry ↦ valued entry.1 entry.2)).failure? =
      if ∃ entry ∈ entries, Json.exceedsRoom entry.2.toList = true then some .exhausted else none := by
  induction entries generalizing node with
  | nil => rfl
  | cons entry rest ih =>
    rw [List.map_cons]
    cases hfirst : Json.exceedsRoom entry.2.toList with
    | true =>
      rw [valued_of_exceeds hfirst, if_pos ⟨entry, List.mem_cons_self, hfirst⟩]
      rfl
    | false =>
      rw [valued_of_fits hfirst]
      refine (ih _).trans (if_congr ?_ rfl rfl)
      simp [hfirst]

/-- With room for all texts, the stack has no say. -/
theorem map_valued_of_fits {entries : List (String × String)}
    (h : ¬ ∃ entry ∈ entries, Json.exceedsRoom entry.2.toList = true) :
    (entries.map fun entry ↦ valued entry.1 entry.2) =
      entries.map fun entry ↦ Edit.set entry.1 (Tag.value entry.2) := by
  refine List.map_congr_left fun entry hentry ↦ valued_of_fits ?_ entry.1
  exact Bool.eq_false_iff.mpr fun hexceeds ↦ h ⟨entry, hentry, hexceeds⟩

/-! ## Passes -/

/-- Only the last edits of a pass need the stack. -/
theorem edits_eq_append {type : Option Json} {gate : Gate} (hgate : Constraint.gate type = .ok gate)
    (tags : Dict String) (description : Option String) :
    edits type tags description = (describe description ++ gated tags gate) ++
      (valuedEntries tags).map fun entry ↦ valued entry.1 entry.2 := by
  rw [← default?_append_extensions, edits, hgate]
  simp only [List.append_assoc]

/-- A pass is the pass without a limit, unless it comes to a text for which there is no room. -/
theorem outcome_applied (node : Node) (tags : Dict String) (description : Option String) :
    (applied node tags description).outcome =
      ((@applied Room.unlimited node tags description).outcome >>= fun result ↦
        if ExceedsRoom tags then .error .exhausted else .ok result) := by
  cases hgate : gate (Dict.get? "type" node) with
  | error failure =>
    have hedits (room : Room) : @edits room (Dict.get? "type" node) tags description =
        describe description ++ [.failed failure] := by
      rw [edits, hgate]
    have hsame : applied node tags description = @applied Room.unlimited node tags description := by
      unfold applied apply
      rw [hedits, hedits]
    have hmem : .failed failure ∈ edits (Dict.get? "type" node) tags description :=
      hedits _ ▸ List.mem_append_right _ (List.mem_singleton_self _)
    obtain ⟨first, hfirst⟩ := exists_failure_of_mem hmem node
    rw [← hsame, applied_eq_error_iff.mpr hfirst]
    rfl
  | ok gate =>
    have hedits (room : Room) := @edits_eq_append room _ _ hgate tags description
    generalize describe description ++ gated tags gate = plain at hedits
    cases hplain : (run node plain).failure? with
    | some failure =>
      have hfails (room : Room) : (@applied room node tags description).outcome = .error failure := by
        refine applied_eq_error_iff.mpr ?_
        rw [apply, hedits, run_append_of_failed hplain, hplain]
      rw [hfails, hfails]
      rfl
    | none =>
      have hfailure (room : Room) : (@apply room node tags description).failure? =
          if @ExceedsRoom room tags then some .exhausted else none := by
        rw [apply, hedits, (run_append_of_none hplain _).1]
        exact failure?_run_valued _ _
      have hnever : ¬ @ExceedsRoom Room.unlimited tags := by
        rintro ⟨tag, text, hexceeds⟩
        cases hexceeds
      have hfree := hfailure Room.unlimited
      rw [if_neg hnever] at hfree
      rw [(@applied_eq_ok_iff Room.unlimited ..).mpr ⟨hfree, rfl⟩, Outcome.ok_bind]
      by_cases hexceeds : ExceedsRoom tags
      · rw [if_pos hexceeds]
        exact applied_eq_error_iff.mpr ((hfailure _).trans (if_pos hexceeds))
      · rw [if_neg hexceeds]
        refine applied_eq_ok_iff.mpr ⟨(hfailure _).trans (if_neg hexceeds), ?_⟩
        unfold apply
        rw [hedits, hedits, map_valued_of_fits hexceeds,
          @map_valued_of_fits Room.unlimited _ hnever]

/-- A pass fails exactly at an integer that is too long to convert, or else at a text for which there is
no room. -/
theorem applied_eq_error_iff_limits {node : Node} (hnode : HasTextType node) {tags : Dict String}
    {description : Option String} {failure : Failure} :
    (applied node tags description).outcome = .error failure ↔
      (failure = .overlongInteger ∧
        ∃ tag text, Dict.get? tag tags = some text ∧ Overlong node tag text) ∨
      (failure = .exhausted ∧ ExceedsRoom tags ∧
        ¬ ∃ tag text, Dict.get? tag tags = some text ∧ Overlong node tag text) := by
  have hfree (failure : Failure) :=
    @applied_eq_error_iff_overlong node hnode tags description failure
  generalize (∃ tag text, Dict.get? tag tags = some text ∧ Overlong node tag text) = long at hfree ⊢
  rw [outcome_applied]
  cases hresult : (@applied Room.unlimited node tags description).outcome with
  | error first =>
    obtain ⟨rfl, hlong⟩ := (hfree first).mp hresult
    change Except.error _ = Except.error failure ↔ _
    simp [hlong, eq_comm]
  | ok result =>
    have hshort : ¬ long := fun hlong ↦ by cases hresult.symm.trans ((hfree _).mpr ⟨rfl, hlong⟩)
    rw [Outcome.ok_bind]
    by_cases hexceeds : ExceedsRoom tags <;> simp [hexceeds, hshort, eq_comm]

end

end Constraint

/-! ## Results -/

/-- A result on a limited stack: it is the one without a limit, or there is a cause for the stack to be
exhausted. -/
def Outcome.Within {α : Type} (cause : Prop) (limited free : Except Failure α) : Prop :=
  limited = free ∨ limited = .error .exhausted ∧ cause

namespace Outcome.Within

variable {α β : Type} {cause : Prop}

theorem refl (result : Except Failure α) : Within cause result result :=
  .inl rfl

/-- A result that is limited may go on with one that is. -/
theorem bind {limited free : Except Failure α} {next next' : α → Except Failure β}
    (h : Within cause limited free)
    (hnext : ∀ value, free = .ok value → Within cause (next value) (next' value)) :
    Within cause (limited >>= next) (free >>= next') := by
  rcases h with rfl | ⟨rfl, hcause⟩
  · cases limited with
    | ok value => exact hnext value rfl
    | error failure => exact refl _
  · exact .inr ⟨rfl, hcause⟩

theorem mapM {f f' : α → Logged β} {xs : List α}
    (h : ∀ x ∈ xs, Within cause (f x).outcome (f' x).outcome) :
    Within cause (xs.mapM f).outcome (xs.mapM f').outcome := by
  induction xs with
  | nil => exact refl _
  | cons x xs ih =>
    obtain ⟨hfirst, hrest⟩ := List.forall_mem_cons.mp h
    rw [List.mapM_cons, List.mapM_cons]
    simp only [Logged.outcome_bind, Logged.outcome_pure]
    exact hfirst.bind fun y _ ↦ (ih hrest).bind fun ys _ ↦ refl _

end Outcome.Within

open Outcome (Within)

/-! ## Compilations -/

namespace TypeModel

variable {τ ι : Type} [Stack] {model : TypeModel τ ι} {root type : τ}

/-- Below a type, a default or an extension has a text for which there is no room at some place. -/
def DocumentsDeep (model : TypeModel τ ι) (root : τ) : Prop :=
  ∃ symbol tags place, model.Documents root symbol ∧ Symbol.tagTextsOf symbol = .ok tags ∧
    @Constraint.ExceedsRoom (Stack.room place) tags

/-- A pass is limited by its texts alone. -/
theorem within_applied {symbol : Option Symbol} (hsymbol : model.Documents root symbol)
    {tags : Dict String} (htags : Symbol.tagTextsOf symbol = .ok tags) (place : Stack.Place) (node : Node)
    (description : Option String) :
    Within (model.DocumentsDeep root) (@Constraint.applied (Stack.room place) node tags description).outcome
      (@Constraint.applied Room.unlimited node tags description).outcome := by
  rw [@Constraint.outcome_applied (Stack.room place)]
  cases (@Constraint.applied Room.unlimited node tags description).outcome with
  | error failure => exact .inl rfl
  | ok result =>
    rw [Outcome.ok_bind]
    split
    · rename_i hexceeds
      exact .inr ⟨rfl, symbol, tags, place, hsymbol, htags, hexceeds⟩
    · exact .inl rfl

/-- A member is limited by its type and its tags. -/
theorem within_compileMember {place : Stack.Place} {compileType compileType' : τ → Logged Node}
    {member : Member τ}
    (hsymbol : Symbol.hasTag Constraint.ignoreTag member.symbol = false →
      model.Documents root member.symbol)
    (hcompile : Symbol.hasTag Constraint.ignoreTag member.symbol = false →
      Within (model.DocumentsDeep root) (compileType member.type).outcome
        (compileType' member.type).outcome) (typeName : String) :
    Within (model.DocumentsDeep root)
      (@compileMember _ _ (Stack.room place) model compileType typeName member).outcome
      (@compileMember _ _ Room.unlimited model compileType' typeName member).outcome := by
  unfold compileMember
  simp only [Logged.outcome_bind, Logged.outcome_lift]
  refine (Within.refl _).bind fun tags htags ↦ (Within.refl _).bind fun optional _ ↦ ?_
  rw [Symbol.contains_tagTextsOf htags]
  cases hignored : Symbol.hasTag Constraint.ignoreTag member.symbol with
  | true => exact .refl _
  | false =>
    simp only [Bool.false_eq_true, if_false, Logged.outcome_bind, Logged.outcome_pure]
    exact (hcompile hignored).bind fun node _ ↦
      (within_applied (hsymbol hignored) htags place node _).bind fun _ _ ↦ .refl _

variable [BEq ι]

/-- A node is built as without a limit, if its parts are compiled so. -/
theorem within_build {place : Stack.Place} {compileType compileType' : Open ι → τ → Logged Node}
    {category : Category} (hcategory : model.classify type = .ok category)
    (hbelow : Relation.ReflTransGen model.Successor root type)
    (hcompile : ∀ active part, Relation.ReflTransGen model.Successor root part →
      Within (model.DocumentsDeep root) (compileType active part).outcome
        (compileType' active part).outcome) (active : Open ι) :
    Within (model.DocumentsDeep root)
      (@build _ _ (Stack.room place) _ model compileType active type category).outcome
      (@build _ _ Room.unlimited _ model compileType' active type category).outcome := by
  cases category with
  | array =>
    cases helement : model.element? type with
    | none =>
      simp only [build, helement]
      exact .refl _
    | some element =>
      simp only [build, helement, Logged.outcome_bind]
      exact (hcompile active element (hbelow.tail (.inl ⟨hcategory, helement⟩))).bind
        fun _ _ ↦ .refl _
  | object =>
    by_cases hopen : IsOpen active (model.identity type)
    · rw [@build_object_of_open _ _ (Stack.room place) _ model _ _ _ hopen,
        build_object_of_open model hopen]
      exact .refl _
    rw [@build_object_of_closed _ _ (Stack.room place) _ model _ _ _ hopen,
      build_object_of_closed model hopen]
    simp only [Logged.outcome_bind]
    refine (Within.refl _).bind fun members hmembers ↦ (Within.mapM fun member hmember ↦
      within_compileMember (fun hkept ↦ ?_) (fun hkept ↦ hcompile _ _ ?_) _).bind fun _ _ ↦ .refl _
    · exact .member hbelow hcategory hmembers hmember hkept
    · exact hbelow.tail (.inr ⟨hcategory, members, hmembers, member, hmember, hkept, rfl⟩)
  | _ => exact .refl _

/-- Below a root, every type is compiled as without a limit, or the stack is exhausted at a text. -/
theorem within_compileUnder (depth : Nat) (active : Open ι)
    (hbelow : Relation.ReflTransGen model.Successor root type) :
    Within (model.DocumentsDeep root) (model.compileUnder depth active type).outcome
      (@compileUnder _ _ Stack.unlimited _ model depth active type).outcome := by
  induction depth generalizing active type with
  | zero => exact .refl _
  | succ depth ih =>
    simp only [compileUnder, compileStep, Logged.outcome_bind, Logged.outcome_lift]
    refine (Within.refl _).bind fun tags htags ↦ (Within.refl _).bind fun category hcategory ↦ ?_
    refine (within_build hcategory hbelow (fun active part hpart ↦ ih active hpart) active).bind
      fun base _ ↦ ?_
    exact within_applied (.type hbelow) htags _ base _

/-- A type is compiled as without a limit, or the stack is exhausted at a text below it. -/
theorem within_compile (model : TypeModel τ ι) (type : τ) :
    Within (model.DocumentsDeep type) (model.compile type).outcome
      (@compile _ _ Stack.unlimited _ model type).outcome := by
  rw [outcome_compile, @outcome_compile _ _ Stack.unlimited]
  exact within_compileUnder (model.depth type) [] .refl

end TypeModel

end Schematic
