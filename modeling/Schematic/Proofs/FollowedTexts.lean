import Schematic.Annotation.Reading
import Schematic.Proofs.Outcome

/-!
# Texts that stand for types

What an annotation means depends on the reading of texts only through the texts in it. A text that denotes
a type therefore means what the type means, also if the type stands in another class or module, provided
that the texts inside the type mean the same there. Those are followed with the outer text in mind, so
that one which leads back to the outer text is left as it is.
-/

namespace Schematic.Annotation

mutual

/-- The texts in an annotation that are followed. -/
def texts : Annotation → List String
  | forward text => [text]
  | union _ members => textsOfAll members
  | generic (.cls _) args => textsOfArgs args
  | generic (.form _) args => textsOfAll args
  | annotated inner _ => texts inner
  | qualified qualifier inner => if qualifier = .initVar then [] else texts inner
  | _ => []

def textsOfAll : List Annotation → List String
  | [] => []
  | first :: rest => texts first ++ textsOfAll rest

/-- The texts among the parameters of a class, where a text is a reference. -/
def textsOfArgs : List Annotation → List String
  | [] => []
  | value v :: rest => v.text?.toList ++ textsOfArgs rest
  | first :: rest => texts first ++ textsOfArgs rest

end

section

variable {f g : String → Except Failure Annotation}

mutual

/-- Resolving depends on nothing but the meaning of the texts. -/
theorem resolveWith_congr (t : Annotation) (h : ∀ text ∈ t.texts, f text = g text) :
    resolveWith f t = resolveWith g t := by
  cases t with
  | forward text => exact h text (by simp [texts])
  | union style members =>
    rw [texts] at h
    cases style with
    | named => rw [resolveWith, resolveWith, resolveAll_congr members h]
    | barred =>
      cases members with
      | nil => rfl
      | cons first rest =>
        rw [textsOfAll] at h
        rw [resolveWith, resolveWith,
          resolveWith_congr first fun text htext ↦ h text (List.mem_append_left _ htext),
          resolveAll_congr rest fun text htext ↦ h text (List.mem_append_right _ htext)]
  | generic base args =>
    cases base with
    | cls ref =>
      rw [texts] at h
      rw [resolveWith, resolveWith, resolveArgs_congr args h]
    | form name =>
      rw [texts] at h
      rw [resolveWith, resolveWith, resolveAll_congr args h]
  | annotated inner metadata =>
    rw [texts] at h
    rw [resolveWith, resolveWith, resolveWith_congr inner h]
  | qualified qualifier inner =>
    rw [texts] at h
    rw [resolveWith, resolveWith]
    split
    · rfl
    · rename_i hqualifier
      rw [if_neg hqualifier] at h
      rw [resolveWith_congr inner h]
  | _ => rfl

/-- The members of a union are resolved one by one. -/
theorem resolveAll_congr (members : List Annotation)
    (h : ∀ text ∈ textsOfAll members, f text = g text) :
    resolveAll f members = resolveAll g members := by
  cases members with
  | nil => rfl
  | cons first rest =>
    rw [textsOfAll] at h
    rw [resolveAll, resolveAll,
      resolveWith_congr first fun text htext ↦ h text (List.mem_append_left _ htext),
      resolveAll_congr rest fun text htext ↦ h text (List.mem_append_right _ htext)]

theorem resolveArgs_congr (args : List Annotation) (h : ∀ text ∈ textsOfArgs args, f text = g text) :
    resolveArgs f args = resolveArgs g args := by
  cases args with
  | nil => rfl
  | cons first rest =>
    cases first with
    | value v =>
      rw [textsOfArgs] at h
      rw [resolveArgs, resolveArgs,
        resolveArgs_congr rest fun text htext ↦ h text (List.mem_append_right _ htext)]
      cases htext : v.text? with
      | none => rfl
      | some text =>
        have hsame : f text = g text := h text (by simp [htext])
        simp only [hsame]
    | _ =>
      rw [textsOfArgs] at h
      · rw [resolveArgs, resolveArgs,
          resolveWith_congr _ fun text htext ↦ h text (List.mem_append_left _ htext),
          resolveArgs_congr rest fun text htext ↦ h text (List.mem_append_right _ htext)]
        all_goals simp
      · simp

end

end

/-! ## Texts inside texts -/

variable {reading reading' : Reading} {text : String} {t t' : Annotation}

/-- The meaning of a text that stands in what another text denotes. -/
def Reading.meaningWithin (reading : Reading) (outer : String) (position : Position) (text : String) :
    Except Failure Annotation :=
  follow reading reading.limit [outer] position text

/-- A text means what it denotes, with the meanings that the texts have within it. -/
theorem Reading.meaning_eq (reading : Reading) (position : Position) (text : String) :
    reading.meaning position text = reading.denoted position text >>= fun t ↦
      resolveWith (reading.meaningWithin text (position.within t)) t :=
  rfl

/-- A text that is a whole type is followed. -/
theorem textPosition_of_asType (h : t.asType = .forward text) : t.textPosition = .whole := by
  cases t with
  | value | forward => rfl
  | _ => cases h

/-- A value that is no text has no text in it. -/
theorem texts_asType_value {v : Value} (h : ∀ text, (value v).asType ≠ .forward text) :
    (value v).asType.texts = [] := by
  cases v <;> simp only [asType] at h ⊢ <;> first | rfl | (split <;> simp_all [texts])

/-- An annotation means in one place what another one means in another place: it is the same, or a text
that denotes it. -/
inductive SpelledBy (reading reading' : Reading) (t : Annotation) : Annotation → Prop where
  | kept (h : t.resolve reading' = t.resolve reading) : SpelledBy reading reading' t t
  | text {text : String} {t' : Annotation} (htext : t'.asType = .forward text)
      (ht : reading'.denoted .whole text = .ok t.asType)
      (hinner : ∀ inner ∈ t.asType.texts,
        reading'.meaningWithin text (Position.whole.within t.asType) inner =
          reading.meaning t.textPosition inner) : SpelledBy reading reading' t t'

/-- Annotations that are spelled by others mean the same. -/
theorem SpelledBy.resolve_eq (h : SpelledBy reading reading' t t') :
    t'.resolve reading' = t.resolve reading := by
  cases h with
  | kept h => exact h
  | @text text _ htext ht hinner =>
    rw [resolve, htext, textPosition_of_asType htext, resolveWith, Reading.meaning_eq, ht]
    exact resolveWith_congr t.asType hinner

/-- Without texts an annotation means the same everywhere. -/
theorem resolve_of_texts_eq_nil (h : t.asType.texts = []) : t.resolve reading' = t.resolve reading :=
  resolveWith_congr t.asType fun text htext ↦ by simp [h] at htext

end Schematic.Annotation
