import Mathlib.Data.List.Forall2
import Schematic.Log

/-!
# Outcomes of logged results

The outcome of a logged result forgets its records. Forgetting respects sequencing, so
an outcome is inverted one step at a time: a sequence succeeds when both parts do, and
it fails with the failure of the first part that fails.
-/

namespace Schematic

namespace Outcome

variable {α β : Type}

@[simp]
theorem ok_bind (value : α) (next : α → Except Failure β) :
    (.ok value : Except Failure α) >>= next = next value := rfl

/-- Two computations in a row succeed if both do. -/
theorem bind_eq_ok_iff {ε : Type} {first : Except ε α} {next : α → Except ε β} {value : β} :
    first >>= next = .ok value ↔ ∃ middle, first = .ok middle ∧ next middle = .ok value := by
  cases first with
  | error error => simp [bind, Except.bind]
  | ok middle => simp [bind, Except.bind]

theorem bind_eq_error_iff {first : Except Failure α} {next : α → Except Failure β}
    {failure : Failure} :
    first >>= next = .error failure ↔
      first = .error failure ∨ ∃ middle, first = .ok middle ∧ next middle = .error failure := by
  cases first with
  | error failure => simp [bind, Except.bind]
  | ok middle => simp [bind, Except.bind]

theorem bind_congr {first : Except Failure α} {next next' : α → Except Failure β}
    (h : ∀ value, first = .ok value → next value = next' value) :
    first >>= next = first >>= next' := by
  cases first with
  | error failure => rfl
  | ok value => exact h value rfl

theorem eq_ok_of_toOption {result : Except Failure α} {value : α}
    (h : result.toOption = some value) : result = .ok value := by
  cases result with
  | error failure => cases h
  | ok found => exact congrArg Except.ok (Option.some.inj h)

def failure? : Except Failure α → Option Failure
  | .ok _ => none
  | .error failure => some failure

theorem eq_error_of_failure? {result : Except Failure α} {failure : Failure}
    (h : failure? result = some failure) : result = .error failure := by
  cases result with
  | ok value => cases h
  | error found => exact congrArg Except.error (Option.some.inj h)

/-- Whatever every step preserves, a traversal that succeeds preserves. -/
theorem foldlM_induction {P : β → Prop} {step : β → α → Except Failure β} {xs : List α}
    (hstep : ∀ x ∈ xs, ∀ current next, P current → step current x = .ok next → P next)
    {start last : β} (hstart : P start) (h : xs.foldlM step start = .ok last) : P last := by
  induction xs generalizing start with
  | nil =>
    cases h
    exact hstart
  | cons x xs ih =>
    rw [List.foldlM_cons, bind_eq_ok_iff] at h
    obtain ⟨next, hnext, hrest⟩ := h
    exact ih (fun y hy ↦ hstep y (List.mem_cons_of_mem x hy))
      (hstep x List.mem_cons_self start next hstart hnext) hrest

theorem exists_of_mem_left {R : α → β → Prop} {xs : List α} {ys : List β}
    (h : List.Forall₂ R xs ys) {x : α} (hx : x ∈ xs) : ∃ y ∈ ys, R x y := by
  induction h with
  | nil => simp at hx
  | cons hfirst hrest ih =>
    rcases List.mem_cons.mp hx with rfl | hmem
    · exact ⟨_, List.mem_cons_self, hfirst⟩
    · obtain ⟨y, hy, hxy⟩ := ih hmem
      exact ⟨y, List.mem_cons_of_mem _ hy, hxy⟩

theorem exists_of_mem_right {R : α → β → Prop} {xs : List α} {ys : List β}
    (h : List.Forall₂ R xs ys) {y : β} (hy : y ∈ ys) : ∃ x ∈ xs, R x y :=
  exists_of_mem_left (R := fun y x ↦ R x y) h.flip hy

end Outcome

namespace Logged

variable {α β : Type}

@[simp]
theorem outcome_pure (value : α) : (pure value : Logged α).outcome = .ok value := rfl

@[simp]
theorem outcome_lift (result : Except Failure α) : (lift result).outcome = result := rfl

@[simp]
theorem outcome_fail (failure : Failure) : (fail failure : Logged α).outcome = .error failure :=
  rfl

@[simp]
theorem outcome_record (event : Event) : (record event).outcome = .ok () := rfl

/-- The outcome of a recorded computation does not depend on what it records. -/
theorem outcome_bind (first : Logged α) (next : α → Logged β) :
    (first >>= next).outcome = first.outcome >>= fun value ↦ (next value).outcome := by
  change (Logged.bind first next).outcome = _
  unfold Logged.bind
  cases first.outcome <;> rfl

theorem bind_eq_ok_iff {first : Logged α} {next : α → Logged β} {value : β} :
    (first >>= next).outcome = .ok value ↔
      ∃ middle, first.outcome = .ok middle ∧ (next middle).outcome = .ok value := by
  rw [outcome_bind, Outcome.bind_eq_ok_iff]

theorem bind_eq_error_iff {first : Logged α} {next : α → Logged β} {failure : Failure} :
    (first >>= next).outcome = .error failure ↔
      first.outcome = .error failure ∨
        ∃ middle, first.outcome = .ok middle ∧ (next middle).outcome = .error failure := by
  rw [outcome_bind, Outcome.bind_eq_error_iff]

theorem bind_bind {γ : Type} (first : Logged α) (next : α → Logged β) (last : β → Logged γ) :
    (first.bind next).bind last = first.bind fun value ↦ (next value).bind last := by
  obtain ⟨outcome, events⟩ := first
  cases outcome with
  | error failure => rfl
  | ok value =>
    simp only [Logged.bind]
    cases (next value).outcome with
    | error failure => rfl
    | ok middle => simp only [List.append_assoc]

/-- Records are concatenated, so sequencing is associative. -/
instance : LawfulMonad Logged := LawfulMonad.mk' Logged
  (fun result ↦ by
    obtain ⟨outcome, events⟩ := result
    cases outcome <;> simp [Functor.map, Logged.bind, ok])
  (fun _ _ ↦ rfl)
  bind_bind

theorem bind_congr {first : Logged α} {next next' : α → Logged β}
    (h : ∀ value, first.outcome = .ok value → next value = next' value) :
    first >>= next = first >>= next' := by
  change Logged.bind first next = Logged.bind first next'
  unfold Logged.bind
  cases houtcome : first.outcome with
  | error failure => rfl
  | ok value => simp only [h value houtcome]

/-- Functions that agree on the entries of a list agree on the list. -/
theorem mapM_congr {f g : α → Logged β} {xs : List α} (h : ∀ x ∈ xs, f x = g x) :
    xs.mapM f = xs.mapM g := by
  induction xs with
  | nil => rfl
  | cons x xs ih =>
    obtain ⟨hx, hxs⟩ := List.forall_mem_cons.mp h
    rw [List.mapM_cons, List.mapM_cons, hx, ih hxs]

/-- A traversal succeeds exactly when it succeeds at every element. -/
theorem mapM_eq_ok_iff {f : α → Logged β} {xs : List α} {ys : List β} :
    (xs.mapM f).outcome = .ok ys ↔ List.Forall₂ (fun x y ↦ (f x).outcome = .ok y) xs ys := by
  induction xs generalizing ys with
  | nil => simp [eq_comm]
  | cons x xs ih =>
    simp only [List.mapM_cons, bind_eq_ok_iff, ih, outcome_pure, List.forall₂_cons_left_iff,
      Except.ok.injEq]
    constructor
    · rintro ⟨y, hy, rest, hrest, rfl⟩
      exact ⟨y, rest, hy, hrest, rfl⟩
    · rintro ⟨y, rest, hy, hrest, rfl⟩
      exact ⟨y, hy, rest, hrest, rfl⟩

/-- A traversal that fails does so at one of the elements. -/
theorem exists_mem_of_mapM_eq_error {f : α → Logged β} {xs : List α} {failure : Failure}
    (h : (xs.mapM f).outcome = .error failure) : ∃ x ∈ xs, (f x).outcome = .error failure := by
  induction xs with
  | nil => simp at h
  | cons x xs ih =>
    rw [List.mapM_cons, bind_eq_error_iff] at h
    rcases h with hx | ⟨y, -, hrest⟩
    · exact ⟨x, List.mem_cons_self, hx⟩
    · rw [bind_eq_error_iff] at hrest
      rcases hrest with hrest | ⟨ys, -, hpure⟩
      · obtain ⟨x', hx', hfail⟩ := ih hrest
        exact ⟨x', List.mem_cons_of_mem x hx', hfail⟩
      · simp at hpure

end Logged

end Schematic
