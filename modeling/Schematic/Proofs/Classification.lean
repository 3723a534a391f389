import Mathlib.Data.List.Forall2
import Schematic.Model.Compile

/-!
# What a classification depends on

The category of a type, the values of an enumeration and those of a union of literals are told by a
few answers of a type model. The documentation of types, the members of structs and the elements of
arrays have no part in them. So two models that agree on these few answers classify alike, also where
the types that they are asked about are related only.
-/

namespace Schematic.TypeModel

variable {τ ι : Type}

/-- Two models give the same answers about the shapes of types related by `R`, the members of unions
being related again. -/
structure Resembles (model other : TypeModel τ ι) (R : τ → τ → Prop) : Prop where
  flags {a b : τ} (h : R a b) : other.flags b = model.flags a
  literal {a b : τ} (h : R a b) : other.literal b = model.literal a
  unionMembers {a b : τ} (h : R a b) :
    List.Forall₂ R (model.unionMembers a) (other.unionMembers b)
  isArray {a b : τ} (h : R a b) : other.isArray b = model.isArray a
  isTuple {a b : τ} (h : R a b) : other.isTuple b = model.isTuple a
  render {a b : τ} (h : R a b) : other.render b = model.render a

namespace Resembles

variable {model other : TypeModel τ ι} {R : τ → τ → Prop} {a b : τ}

/-- The values of related lists of types agree. -/
theorem textAndNumberValues (h : Resembles model other R) {as bs : List τ}
    (hab : List.Forall₂ R as bs) : other.textAndNumberValues bs = model.textAndNumberValues as := by
  induction hab with
  | nil => rfl
  | cons hfirst hrest ih =>
    rw [TypeModel.textAndNumberValues, TypeModel.textAndNumberValues, h.flags hfirst,
      h.literal hfirst, ih]

theorem isTrueLiteral (h : Resembles model other R) (hab : R a b) :
    other.isTrueLiteral b = model.isTrueLiteral a := by
  unfold TypeModel.isTrueLiteral
  rw [h.render hab]

theorem literalValues (h : Resembles model other R) {as bs : List τ}
    (hab : List.Forall₂ R as bs) : other.literalValues bs = model.literalValues as := by
  induction hab with
  | nil => rfl
  | cons hfirst hrest ih =>
    rw [TypeModel.literalValues, TypeModel.literalValues, h.flags hfirst, h.literal hfirst,
      h.isTrueLiteral hfirst, ih]

theorem enumValues (h : Resembles model other R) (hab : R a b) :
    other.enumValues b = model.enumValues a := by
  unfold TypeModel.enumValues
  rw [h.flags hab, h.textAndNumberValues (h.unionMembers hab)]

theorem classify (h : Resembles model other R) (hab : R a b) :
    other.classify b = model.classify a := by
  unfold TypeModel.classify classifyShape
  rw [h.flags hab, h.enumValues hab, h.isArray hab, h.isTuple hab]

theorem reject (h : Resembles model other R) (hab : R a b) {α : Type} (rejection : Rejection) :
    (other.reject rejection b : Logged α) = model.reject rejection a := by
  unfold TypeModel.reject
  rw [h.render hab]

theorem buildUnion (h : Resembles model other R) (hab : R a b) :
    other.buildUnion b = model.buildUnion a := by
  unfold TypeModel.buildUnion
  rw [h.literalValues (h.unionMembers hab), h.reject hab]

theorem anyM_flags (h : Resembles model other R) (flag : Flag) {as bs : List τ}
    (hab : List.Forall₂ R as bs) :
    (bs.anyM fun member ↦ (do let flags ← other.flags member; pure (flags.contains flag))) =
      as.anyM fun member ↦ (do let flags ← model.flags member; pure (flags.contains flag)) := by
  induction hab with
  | nil => rfl
  | cons hfirst hrest ih => rw [List.anyM, List.anyM, h.flags hfirst, ih]

theorem includesUndefined (h : Resembles model other R) (hab : R a b) :
    other.includesUndefined b = model.includesUndefined a := by
  unfold TypeModel.includesUndefined
  rw [h.flags hab, h.anyM_flags .undefined (h.unionMembers hab)]

end Resembles

/-- Two models give the same answers about the shape of every type. -/
structure SameShape (model other : TypeModel τ ι) : Prop where
  flags : other.flags = model.flags
  literal : other.literal = model.literal
  unionMembers : other.unionMembers = model.unionMembers
  isArray : other.isArray = model.isArray
  isTuple : other.isTuple = model.isTuple
  render : other.render = model.render

/-- Models of the same shape resemble each other where the types are equal. -/
theorem SameShape.resembles {model other : TypeModel τ ι} (h : SameShape model other) :
    Resembles model other Eq where
  flags := by rintro type _ rfl; rw [h.flags]
  literal := by rintro type _ rfl; rw [h.literal]
  unionMembers := by rintro type _ rfl; rw [h.unionMembers, List.forall₂_eq_eq_eq]
  isArray := by rintro type _ rfl; rw [h.isArray]
  isTuple := by rintro type _ rfl; rw [h.isTuple]
  render := by rintro type _ rfl; rw [h.render]

end Schematic.TypeModel
