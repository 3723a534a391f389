import Schematic.Proofs.FollowedTexts

/-!
# Texts that are evaluated

A text is evaluated when it is replaced by the type that it denotes, with every text in that type evaluated
in turn. One text is left as it is, a text that is met in its own evaluation. An annotation that can be
resolved at all is resolved in this way: all its texts have a meaning, and the number of steps that are
allowed for it does not show in the result.
-/

namespace Schematic.Annotation

section

variable {f : String → Except Failure Annotation}

mutual

/-- An annotation is resolved only if each of its texts has a meaning. -/
theorem exists_meaning_of_resolveWith {t u : Annotation} (h : resolveWith f t = .ok u) :
    ∀ text ∈ t.texts, ∃ v, f text = .ok v := by
  cases t with
  | forward text =>
    rw [resolveWith] at h
    intro inner hinner
    rw [texts, List.mem_singleton] at hinner
    exact ⟨u, hinner ▸ h⟩
  | union style members =>
    rw [texts]
    cases style with
    | named =>
      rw [resolveWith] at h
      obtain ⟨resolved, hresolved, -⟩ := Outcome.bind_eq_ok_iff.mp h
      exact exists_meaning_of_resolveAll hresolved
    | barred =>
      cases members with
      | nil => exact fun _ hnone ↦ absurd hnone List.not_mem_nil
      | cons first rest =>
        rw [resolveWith] at h
        obtain ⟨resolved, hfirst, h⟩ := Outcome.bind_eq_ok_iff.mp h
        obtain ⟨resolvedRest, hrest, -⟩ := Outcome.bind_eq_ok_iff.mp h
        rw [textsOfAll]
        exact List.forall_mem_append.mpr
          ⟨exists_meaning_of_resolveWith hfirst, exists_meaning_of_resolveAll hrest⟩
  | generic base args =>
    cases base with
    | cls ref =>
      rw [resolveWith] at h
      obtain ⟨resolved, hresolved, -⟩ := Outcome.bind_eq_ok_iff.mp h
      rw [texts]
      exact exists_meaning_of_resolveArgs hresolved
    | form name =>
      rw [resolveWith] at h
      obtain ⟨resolved, hresolved, -⟩ := Outcome.bind_eq_ok_iff.mp h
      rw [texts]
      exact exists_meaning_of_resolveAll hresolved
  | annotated inner metadata =>
    rw [resolveWith] at h
    obtain ⟨resolved, hresolved, -⟩ := Outcome.bind_eq_ok_iff.mp h
    rw [texts]
    exact exists_meaning_of_resolveWith hresolved
  | qualified qualifier inner =>
    rw [resolveWith] at h
    rw [texts]
    split
    · exact fun _ hnone ↦ absurd hnone List.not_mem_nil
    · rename_i hqualifier
      rw [if_neg hqualifier] at h
      obtain ⟨resolved, hresolved, -⟩ := Outcome.bind_eq_ok_iff.mp h
      exact exists_meaning_of_resolveWith hresolved
  | _ => exact fun _ hnone ↦ absurd hnone List.not_mem_nil

/-- Where the members of a union are resolved, all texts in them have a meaning. -/
theorem exists_meaning_of_resolveAll {members resolved : List Annotation}
    (h : resolveAll f members = .ok resolved) : ∀ text ∈ textsOfAll members, ∃ v, f text = .ok v := by
  cases members with
  | nil => exact fun _ hnone ↦ absurd hnone List.not_mem_nil
  | cons first rest =>
    rw [resolveAll] at h
    obtain ⟨resolvedFirst, hfirst, h⟩ := Outcome.bind_eq_ok_iff.mp h
    obtain ⟨resolvedRest, hrest, -⟩ := Outcome.bind_eq_ok_iff.mp h
    rw [textsOfAll]
    exact List.forall_mem_append.mpr
      ⟨exists_meaning_of_resolveWith hfirst, exists_meaning_of_resolveAll hrest⟩

theorem exists_meaning_of_resolveArgs {args resolved : List Annotation}
    (h : resolveArgs f args = .ok resolved) : ∀ text ∈ textsOfArgs args, ∃ v, f text = .ok v := by
  cases args with
  | nil => exact fun _ hnone ↦ absurd hnone List.not_mem_nil
  | cons first rest =>
    cases first with
    | value v =>
      rw [resolveArgs] at h
      rw [textsOfArgs]
      cases htext : v.text? with
      | none =>
        rw [htext] at h
        obtain ⟨kept, -, h⟩ := Outcome.bind_eq_ok_iff.mp h
        obtain ⟨resolvedRest, hrest, -⟩ := Outcome.bind_eq_ok_iff.mp h
        exact exists_meaning_of_resolveArgs hrest
      | some text =>
        rw [htext] at h
        obtain ⟨resolvedFirst, hfirst, h⟩ := Outcome.bind_eq_ok_iff.mp h
        obtain ⟨resolvedRest, hrest, -⟩ := Outcome.bind_eq_ok_iff.mp h
        exact List.forall_mem_cons.mpr ⟨⟨resolvedFirst, hfirst⟩, exists_meaning_of_resolveArgs hrest⟩
    | _ =>
      rw [textsOfArgs]
      · rw [resolveArgs] at h
        · obtain ⟨resolvedFirst, hfirst, h⟩ := Outcome.bind_eq_ok_iff.mp h
          obtain ⟨resolvedRest, hrest, -⟩ := Outcome.bind_eq_ok_iff.mp h
          exact List.forall_mem_append.mpr
            ⟨exists_meaning_of_resolveWith hfirst, exists_meaning_of_resolveArgs hrest⟩
        all_goals simp
      · simp

end

end

/-! ## Evaluations -/

/-- The meaning of a text while others are being evaluated, outermost last. -/
inductive Evaluates (reading : Reading) : List String → Position → String → Annotation → Prop where
  /-- A text in its own evaluation is left as it is. -/
  | left {active : List String} {position : Position} {text : String} (hactive : text ∈ active) :
      Evaluates reading active position text (.forward text)
  /-- Any other text is the type that it denotes, with the meanings of the texts in that type. -/
  | replaced {active : List String} {position : Position} {text : String} {t u : Annotation}
      {meaning : String → Annotation} (hactive : text ∉ active) (ht : reading.denoted position text = .ok t)
      (hmeaning : ∀ inner ∈ t.texts,
        Evaluates reading (text :: active) (position.within t) inner (meaning inner))
      (hu : resolveWith (fun inner ↦ .ok (meaning inner)) t = .ok u) :
      Evaluates reading active position text u

/-- An annotation in which every text is replaced by its meaning. -/
def EvaluatesTo (reading : Reading) (t u : Annotation) : Prop :=
  ∃ meaning : String → Annotation,
    (∀ text ∈ t.asType.texts, Evaluates reading [] t.textPosition text (meaning text)) ∧
      resolveWith (fun text ↦ .ok (meaning text)) t.asType = .ok u

variable {reading : Reading}

/-- A text has one meaning. -/
theorem Evaluates.unique {active : List String} {position : Position} {text : String} {u u' : Annotation}
    (h : Evaluates reading active position text u) (h' : Evaluates reading active position text u') :
    u' = u := by
  induction h generalizing u' with
  | left hactive =>
    cases h' with
    | left _ => rfl
    | replaced hfree => exact absurd hactive hfree
  | @replaced active position text t u meaning hfree ht hmeaning hu ih =>
    cases h' with
    | left hactive => exact absurd hactive hfree
    | @replaced _ _ _ t' _ meaning' _ ht' hmeaning' hu' =>
      obtain rfl : t = t' := Except.ok.inj (ht.symm.trans ht')
      have hsame : resolveWith (fun inner ↦ .ok (meaning' inner)) t =
          resolveWith (fun inner ↦ .ok (meaning inner)) t :=
        resolveWith_congr t fun inner hinner ↦
          congrArg Except.ok (ih inner hinner (hmeaning' inner hinner))
      exact Except.ok.inj (hu'.symm.trans (hsame.trans hu))

/-- An annotation is evaluated in one way only. -/
theorem EvaluatesTo.unique {t u u' : Annotation} (h : EvaluatesTo reading t u)
    (h' : EvaluatesTo reading t u') : u' = u := by
  obtain ⟨meaning, hmeaning, hu⟩ := h
  obtain ⟨meaning', hmeaning', hu'⟩ := h'
  have hsame : resolveWith (fun inner ↦ .ok (meaning' inner)) t.asType =
      resolveWith (fun inner ↦ .ok (meaning inner)) t.asType :=
    resolveWith_congr t.asType fun inner hinner ↦
      congrArg Except.ok ((hmeaning inner hinner).unique (hmeaning' inner hinner))
  exact Except.ok.inj (hu'.symm.trans (hsame.trans hu))

/-- What is resolved has meanings for all its texts, and these decide the result. -/
theorem exists_meaning {f : String → Except Failure Annotation} {t u : Annotation}
    (h : resolveWith f t = .ok u) : ∃ meaning : String → Annotation,
      (∀ text ∈ t.texts, f text = .ok (meaning text)) ∧
        resolveWith (fun text ↦ .ok (meaning text)) t = .ok u := by
  have hall (text : String) : ∃ v, text ∈ t.texts → f text = .ok v := by
    by_cases htext : text ∈ t.texts
    · obtain ⟨v, hv⟩ := exists_meaning_of_resolveWith h text htext
      exact ⟨v, fun _ ↦ hv⟩
    · exact ⟨.forward text, fun hmem ↦ absurd hmem htext⟩
  choose meaning hmeaning using hall
  exact ⟨meaning, hmeaning, resolveWith_congr t hmeaning ▸ h⟩

/-- A text that can be followed in some number of steps is evaluated by it. -/
theorem evaluates_of_follow {steps : Nat} {active : List String} {position : Position} {text : String}
    {u : Annotation} (h : follow reading steps active position text = .ok u) :
    Evaluates reading active position text u := by
  -- The steps bound how deep texts are followed, and are gone once a result is there.
  induction steps generalizing active position text u with
  | zero => cases h
  | succ steps ih =>
    rw [follow] at h
    split at h
    · rename_i hactive
      obtain rfl := Except.ok.inj h
      exact .left (by simpa using hactive)
    · rename_i hactive
      obtain ⟨t, ht, h⟩ := Outcome.bind_eq_ok_iff.mp h
      obtain ⟨meaning, hmeaning, hu⟩ := exists_meaning h
      exact .replaced (by simpa using hactive) ht (fun inner hinner ↦ ih (hmeaning inner hinner)) hu

/-- What resolution yields is the annotation with all texts evaluated. -/
theorem evaluatesTo_of_resolve {t u : Annotation} (h : t.resolve reading = .ok u) :
    EvaluatesTo reading t u := by
  obtain ⟨meaning, hmeaning, hu⟩ := exists_meaning h
  exact ⟨meaning, fun text htext ↦ evaluates_of_follow (hmeaning text htext), hu⟩

end Schematic.Annotation
