import Schematic.Proofs.Building

/-!
# Queries for literal values

The compiler asks for the value of a type only after the flags have said that the type is a string or
a number literal. So the answers about all other types, failures included, have no part in what a type
is compiled to. The induction is on the bound of the nesting.
-/

namespace Schematic.TypeModel

variable {τ ι : Type}

/-- The model with other answers about the values of literals. -/
def withLiterals (model : TypeModel τ ι) (literal : τ → Except Failure Json) : TypeModel τ ι :=
  { model with literal }

/-- The answers about string and number literals are those of the model. -/
def AnswersLiterals (model : TypeModel τ ι) (literal : τ → Except Failure Json) : Prop :=
  ∀ type flags, model.flags type = .ok flags → flags.isTextOrNumber = true →
    literal type = model.literal type

section

variable {model : TypeModel τ ι} {literal : τ → Except Failure Json}

/-- Values are asked of text and number literals only. -/
theorem textAndNumberValues_withLiterals (h : model.AnswersLiterals literal) (types : List τ) :
    (model.withLiterals literal).textAndNumberValues types = model.textAndNumberValues types := by
  induction types with
  | nil => rfl
  | cons type rest ih =>
    unfold textAndNumberValues
    rw [ih]
    refine Outcome.bind_congr fun flags hflags ↦ ?_
    split
    · rename_i hliteral
      change (literal type >>= _) = _
      rw [h type flags hflags hliteral]
    · rfl

theorem literalValues_withLiterals (h : model.AnswersLiterals literal) (types : List τ) :
    (model.withLiterals literal).literalValues types = model.literalValues types := by
  induction types with
  | nil => rfl
  | cons type rest ih =>
    unfold literalValues
    rw [ih]
    refine Outcome.bind_congr fun flags hflags ↦ ?_
    split
    · rfl
    split
    · rfl
    · -- A literal that is no truth value is a text or a number.
      rename_i hliteral hboolean
      have htext : flags.isTextOrNumber = true := by
        rw [Flags.isLiteral, Bool.eq_false_iff.mpr hboolean, Bool.or_false, Bool.not_eq_true,
          Bool.not_eq_false'] at hliteral
        exact hliteral
      change (literal type >>= _) = _
      rw [h type flags hflags htext]

theorem enumValues_withLiterals (h : model.AnswersLiterals literal) (type : τ) :
    (model.withLiterals literal).enumValues type = model.enumValues type := by
  unfold enumValues
  rw [textAndNumberValues_withLiterals h]
  rfl

theorem classify_withLiterals (h : model.AnswersLiterals literal) (type : τ) :
    (model.withLiterals literal).classify type = model.classify type := by
  unfold classify
  rw [enumValues_withLiterals h]
  rfl

/-- A type classified as a literal is answered by the model. -/
theorem literal_of_classify (h : model.AnswersLiterals literal) {type : τ} {category : Category}
    (hcategory : model.classify type = .ok category)
    (hliteral : category ∈ [.stringLiteral, .numberLiteral]) : literal type = model.literal type := by
  obtain ⟨flags, hflags, htext⟩ := isTextOrNumber_of_classify hcategory hliteral
  exact h type flags hflags htext

variable [BEq ι]

/-- A node is built from the values of literals alone. -/
theorem build_withLiterals (h : model.AnswersLiterals literal)
    (compileType : Open ι → τ → Logged Node) (active : Open ι) {type : τ} {category : Category}
    (hcategory : model.classify type = .ok category) :
    (model.withLiterals literal).build compileType active type category =
      model.build compileType active type category := by
  cases category with
  | stringLiteral | numberLiteral =>
    unfold build
    rw [← literal_of_classify h hcategory (by decide)]
    rfl
  | enum =>
    unfold build
    rw [enumValues_withLiterals h]
  | union =>
    unfold build buildUnion
    rw [literalValues_withLiterals h]
    rfl
  | _ => rfl

theorem compileUnder_withLiterals (h : model.AnswersLiterals literal) (depth : Nat) :
    (model.withLiterals literal).compileUnder depth = model.compileUnder depth := by
  induction depth with
  | zero => rfl
  | succ depth ih =>
    funext active type
    unfold compileUnder compileStep
    rw [classify_withLiterals h, ih]
    refine Logged.bind_congr fun tags _ ↦ Logged.bind_congr fun category hcategory ↦ ?_
    rw [build_withLiterals h _ active hcategory]
    rfl

/-- A type is compiled alike, whatever the answers about types that are no string or number literals
are. -/
theorem compile_withLiterals (h : model.AnswersLiterals literal) (type : τ) :
    (model.withLiterals literal).compile type = model.compile type := by
  unfold compile
  rw [compileUnder_withLiterals h]
  rfl

end

end Schematic.TypeModel
