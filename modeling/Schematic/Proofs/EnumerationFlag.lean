import Schematic.Proofs.Building

/-!
# The flag of enumerations

A type that says it is like an enumeration is compiled to the texts and numbers of its union, if
there are any. This is what the union alone gives where its members are all texts and numbers,
and the flag is passed over where none of them is. So only a union that has both kinds of members
is told apart by the flag. A type that is neither an enumeration nor a union has no use for it.
-/

namespace Schematic

/-! ## Flags up to one -/

/-- Flags that differ at most in whether a type is like an enumeration. -/
def Flags.SameButEnumLike (flags other : Flags) : Prop :=
  ∀ flag, flag ≠ .enumLike → (flag ∈ other ↔ flag ∈ flags)

namespace Flags.SameButEnumLike

variable {flags other : Flags}

/-- Every other flag is set in both or in none. -/
theorem contains (h : SameButEnumLike flags other) (flag : Flag) (hflag : flag ≠ .enumLike) :
    List.contains other flag = List.contains flags flag := by
  rw [Bool.eq_iff_iff, List.contains_iff_mem, List.contains_iff_mem, h flag hflag]

theorem isTextOrNumber (h : SameButEnumLike flags other) :
    other.isTextOrNumber = flags.isTextOrNumber := by
  unfold Flags.isTextOrNumber
  rw [h.contains .stringLiteral (by decide), h.contains .numberLiteral (by decide)]

theorem isLiteral (h : SameButEnumLike flags other) : other.isLiteral = flags.isLiteral := by
  unfold Flags.isLiteral
  rw [h.contains .stringLiteral (by decide), h.contains .numberLiteral (by decide),
    h.contains .booleanLiteral (by decide)]

theorem categoryOfFlags? (h : SameButEnumLike flags other) :
    TypeModel.categoryOfFlags? other = TypeModel.categoryOfFlags? flags := by
  unfold TypeModel.categoryOfFlags? TypeModel.flagCategories
  simp (disch := decide) only [List.find?_cons, List.find?_nil, h.contains]

end Flags.SameButEnumLike

/-- Answers about the flags of a type that differ at most in whether it is like an enumeration. -/
inductive SameAnswer : Except Failure Flags → Except Failure Flags → Prop where
  | ok {flags other : Flags} (h : flags.SameButEnumLike other) : SameAnswer (.ok flags) (.ok other)
  | error (failure : Failure) : SameAnswer (.error failure) (.error failure)

theorem SameAnswer.eq_or_ok {answer other : Except Failure Flags} (h : SameAnswer answer other) :
    other = answer ∨ ∃ flags otherFlags, answer = .ok flags ∧ other = .ok otherFlags ∧
      flags.SameButEnumLike otherFlags := by
  cases h with
  | ok hsame => exact .inr ⟨_, _, rfl, rfl, hsame⟩
  | error failure => exact .inl rfl

/-- What does not look at the flag goes on alike. -/
theorem SameAnswer.bind_congr {α : Type} {answer other : Except Failure Flags}
    {next next' : Flags → Except Failure α} (h : SameAnswer answer other)
    (hnext : ∀ flags other, flags.SameButEnumLike other → next' other = next flags) :
    other >>= next' = answer >>= next := by
  cases h with
  | ok hsame => exact hnext _ _ hsame
  | error failure => rfl

namespace TypeModel

variable {τ ι : Type}

/-! ## Unions with one kind of members -/

/-- The texts and numbers of a union are none of its members or all of them. -/
def Unmixed (model : TypeModel τ ι) (type : τ) : Prop :=
  model.textAndNumberValues (model.unionMembers type) = .ok [] ∨
    model.literalValues (model.unionMembers type) =
      some <$> model.textAndNumberValues (model.unionMembers type)

section

variable {model : TypeModel τ ι} {type : τ} {flags : Flags} [BEq ι]

/-- A union with one kind of members is built as a union, whether it is like an enumeration or not. -/
theorem build_of_unmixed {compileType : Open ι → τ → Logged Node} {active : Open ι}
    (hflags : model.flags type = .ok flags) (hcategory : categoryOfFlags? flags = none)
    (hunion : flags.contains .union = true) (h : model.Unmixed type) :
    Logged.lift (model.classify type) >>= model.build compileType active type =
      model.buildUnion type := by
  cases henum : flags.contains .enumLike with
  | false =>
    rw [classify_of_plainUnion hflags hcategory hunion henum]
    rfl
  | true =>
    -- The collector of the texts and numbers runs first here, and its failures are those of the union.
    unfold Unmixed at h
    cases hvalues : model.textAndNumberValues (model.unionMembers type) with
    | error failure =>
      have hclassify : model.classify type = .error failure := by
        rw [classify, hflags, Outcome.ok_bind, hcategory]
        dsimp only
        rw [henum, enumValues_of_union hflags hunion, hvalues]
        rfl
      rw [hvalues] at h
      rw [hclassify, buildUnion, h.resolve_left (by simp)]
      rfl
    | ok values =>
      rw [hvalues] at h
      rw [classify_of_enumLike hflags hcategory hunion henum hvalues]
      cases values with
      | nil => rfl
      | cons value values =>
        change Logged.lift (model.enumValues type) >>= _ = _
        rw [enumValues_of_union hflags hunion, hvalues, buildUnion, h.resolve_left (by simp)]
        rfl

end

/-! ## Other flags -/

def withFlags (model : TypeModel τ ι) (flags : τ → Except Failure Flags) : TypeModel τ ι :=
  { model with flags }

/-- The answers about flags differ at most in which types are like enumerations. -/
def AgreesButEnumLike (model : TypeModel τ ι) (flags : τ → Except Failure Flags) : Prop :=
  ∀ type, SameAnswer (model.flags type) (flags type)

section

variable {model : TypeModel τ ι} {flags : τ → Except Failure Flags}

/-- Values of literals are found without the flag. -/
theorem textAndNumberValues_withFlags (h : model.AgreesButEnumLike flags) (types : List τ) :
    (model.withFlags flags).textAndNumberValues types = model.textAndNumberValues types := by
  induction types with
  | nil => rfl
  | cons type rest ih =>
    unfold textAndNumberValues
    rw [ih]
    refine (h type).bind_congr fun _ _ hsame ↦ ?_
    rw [hsame.isTextOrNumber]
    rfl

theorem literalValues_withFlags (h : model.AgreesButEnumLike flags) (types : List τ) :
    (model.withFlags flags).literalValues types = model.literalValues types := by
  induction types with
  | nil => rfl
  | cons type rest ih =>
    unfold literalValues
    rw [ih]
    refine (h type).bind_congr fun _ _ hsame ↦ ?_
    rw [hsame.isLiteral, hsame.contains .booleanLiteral (by decide)]
    rfl

theorem enumValues_withFlags (h : model.AgreesButEnumLike flags) (type : τ) :
    (model.withFlags flags).enumValues type = model.enumValues type := by
  unfold enumValues
  rw [textAndNumberValues_withFlags h]
  refine (h type).bind_congr fun _ _ hsame ↦ ?_
  rw [hsame.contains .union (by decide)]
  rfl

theorem includesUndefined_withFlags (h : model.AgreesButEnumLike flags) (type : τ) :
    (model.withFlags flags).includesUndefined type = model.includesUndefined type := by
  have hmember : (fun member ↦ do
      let flags ← flags member
      pure (flags.contains .undefined)) = fun member ↦ (do
        let flags ← model.flags member
        pure (flags.contains .undefined) : Except Failure Bool) := by
    funext member
    refine (h member).bind_congr fun _ _ hsame ↦ ?_
    rw [hsame.contains .undefined (by decide)]
  unfold includesUndefined
  refine (h type).bind_congr fun _ _ hsame ↦ ?_
  rw [hsame.contains .undefined (by decide), hsame.contains .union (by decide)]
  change (if _ then _ else if _ then List.anyM _ _ else _) = _
  rw [← hmember]
  rfl

theorem classifyShape_withFlags {answer other : Flags} (h : answer.SameButEnumLike other)
    (type : τ) : (model.withFlags flags).classifyShape other type = model.classifyShape answer type := by
  unfold classifyShape
  rw [h.contains .object (by decide), h.contains .intersection (by decide)]
  rfl

/-- Where the flag is the same, the category is the same. -/
theorem classify_withFlags_of_eq (h : model.AgreesButEnumLike flags) {type : τ}
    (hsame : flags type = model.flags type) :
    (model.withFlags flags).classify type = model.classify type := by
  have hflags : (model.withFlags flags).flags type = model.flags type := hsame
  unfold classify
  rw [hflags, enumValues_withFlags h]
  rfl

theorem unmixed_withFlags (h : model.AgreesButEnumLike flags) {type : τ} :
    (model.withFlags flags).Unmixed type ↔ model.Unmixed type := by
  unfold Unmixed
  rw [textAndNumberValues_withFlags h, literalValues_withFlags h]
  rfl

variable [BEq ι]

/-- Once the category is known, the flag is not asked for. -/
theorem build_withFlags (h : model.AgreesButEnumLike flags)
    (compileType : Open ι → τ → Logged Node) (active : Open ι) (type : τ) (category : Category) :
    (model.withFlags flags).build compileType active type category =
      model.build compileType active type category := by
  cases category with
  | enum =>
    unfold build
    rw [enumValues_withFlags h]
  | union =>
    unfold build buildUnion
    rw [literalValues_withFlags h]
    rfl
  | object =>
    have hmember : (model.withFlags flags).compileMember = model.compileMember := by
      funext compileType typeName member
      unfold compileMember isOptional
      rw [includesUndefined_withFlags h]
    unfold build
    rw [hmember]
    rfl
  | _ => rfl

/-- A type is told apart by the flag of enumerations only if it is a union with both kinds of members. -/
theorem build_classify_withFlags (h : model.AgreesButEnumLike flags)
    {type : τ} (hunmixed : flags type ≠ model.flags type → model.Unmixed type)
    (compileType : Open ι → τ → Logged Node) (active : Open ι) :
    Logged.lift ((model.withFlags flags).classify type) >>=
        (model.withFlags flags).build compileType active type =
      Logged.lift (model.classify type) >>= model.build compileType active type := by
  have hbuild : (model.withFlags flags).build compileType active type =
      model.build compileType active type := funext (build_withFlags h compileType active type)
  by_cases heq : flags type = model.flags type
  · rw [classify_withFlags_of_eq h heq, hbuild]
  obtain ⟨answer, other, hanswer, hother, hsame⟩ := (h type).eq_or_ok.resolve_left heq
  have hflags : (model.withFlags flags).flags type = .ok other := hother
  -- Of the three ways to a category, only that of a union looks at the flag.
  cases hcategory : categoryOfFlags? answer with
  | some category =>
    rw [classify_of_category hanswer hcategory,
      classify_of_category hflags (hsame.categoryOfFlags?.trans hcategory), hbuild]
  | none =>
    have hnone := hsame.categoryOfFlags?.trans hcategory
    have hcontains := hsame.contains .union (by decide)
    cases hunion : answer.contains .union with
    | false =>
      rw [classify_of_noUnion hanswer hcategory hunion,
        classify_of_noUnion hflags hnone (hcontains.trans hunion), classifyShape_withFlags hsame,
        hbuild]
    | true =>
      have hmodel := hunmixed heq
      rw [build_of_unmixed hanswer hcategory hunion hmodel,
        build_of_unmixed hflags hnone (hcontains.trans hunion) ((unmixed_withFlags h).mpr hmodel)]
      exact build_withFlags h compileType active type .union

/-- The flag decides only about unions that mix texts or numbers with other members. -/
theorem compileUnder_withFlags (h : model.AgreesButEnumLike flags)
    (hunmixed : ∀ type, flags type ≠ model.flags type → model.Unmixed type) (depth : Nat) :
    (model.withFlags flags).compileUnder depth = model.compileUnder depth := by
  induction depth with
  | zero => rfl
  | succ depth ih =>
    funext active type
    have hstep := build_classify_withFlags h (hunmixed type) (model.compileUnder depth) active
    unfold compileUnder compileStep
    simp only [ih, ← bind_assoc, hstep]
    rfl

/-- Where no union of both kinds gets another answer, every type is compiled alike. -/
theorem compile_withFlags (h : model.AgreesButEnumLike flags)
    (hunmixed : ∀ type, flags type ≠ model.flags type → model.Unmixed type) (type : τ) :
    (model.withFlags flags).compile type = model.compile type := by
  unfold compile
  rw [compileUnder_withFlags h hunmixed]
  rfl

end

end TypeModel

end Schematic
