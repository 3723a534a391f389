import Mathlib.Data.List.TakeWhile
import Schematic.Doc.Docstring

/-!
# Tag lines

A tag line consists of the sign, a name and, behind blanks, a text. No character of a name is
blank, so a name ends where the blanks begin. A docstring is laid out in sections line by
line: a tag line opens one, and every other line goes to the one in front of it.
-/

namespace Schematic

namespace Text

theorem isBlank_of_isLineBoundary {c : Char} (h : isLineBoundary c = true) : isBlank c = true := by
  simp only [isLineBoundary, Bool.or_eq_true, decide_eq_true_eq] at h
  rcases h with ((((((((rfl | rfl) | rfl) | rfl) | rfl) | rfl) | rfl) | rfl) | rfl) | rfl <;> decide

/-- Two disjoint lists of ranges have no code point in common. -/
theorem not_inRanges_of_disjoint {ranges ranges' : List (Nat × Nat)}
    (h : ∀ range ∈ ranges, ∀ range' ∈ ranges', range.2 < range'.1 ∨ range'.2 < range.1) {n : Nat}
    (hn : inRanges ranges n = true) : inRanges ranges' n = false := by
  obtain ⟨range, hrange, hbounds⟩ := List.any_eq_true.mp hn
  rw [Bool.and_eq_true, decide_eq_true_eq, decide_eq_true_eq] at hbounds
  apply Bool.eq_false_iff.mpr
  intro hn'
  obtain ⟨range', hrange', hbounds'⟩ := List.any_eq_true.mp hn'
  rw [Bool.and_eq_true, decide_eq_true_eq, decide_eq_true_eq] at hbounds'
  rcases h range hrange range' hrange' with hless | hless <;> omega

theorem isBlank_of_isLetterOrNumber {c : Char} (h : isLetterOrNumber c = true) :
    isBlank c = false := by
  refine not_inRanges_of_disjoint ?_ h
  decide +kernel

end Text

open Text

namespace Docstring

/-! ## Names -/

/-- The characters of a tag's name are not blank. -/
theorem isBlank_of_isTagChar {c : Char} (h : isTagChar c = true) : isBlank c = false := by
  simp only [isTagChar, isWordChar, Bool.or_eq_true, decide_eq_true_eq] at h
  rcases h with ((rfl | hletter) | rfl) | rfl
  · rfl
  · exact isBlank_of_isLetterOrNumber hletter
  · rfl
  · rfl

theorem isBlank_of_isTagStart {c : Char} (h : isTagStart c = true) : isBlank c = false := by
  simp only [isTagStart, Bool.or_eq_true, decide_eq_true_eq] at h
  rcases h with halpha | rfl
  · have hbounds : (0x41 ≤ c.toNat ∧ c.toNat ≤ 0x5A) ∨ (0x61 ≤ c.toNat ∧ c.toNat ≤ 0x7A) := by
      have hupper : c.isUpper = true → 0x41 ≤ c.toNat ∧ c.toNat ≤ 0x5A := of_decide_eq_true
      have hlower : c.isLower = true → 0x61 ≤ c.toNat ∧ c.toNat ≤ 0x7A := by
        intro h
        obtain ⟨hge, hle⟩ := Bool.and_eq_true_iff.mp h
        exact ⟨of_decide_eq_true hge, of_decide_eq_true hle⟩
      exact (Bool.or_eq_true_iff.mp halpha).imp hupper hlower
    have hletter : inRanges [(0x41, 0x5A), (0x61, 0x7A)] c.toNat = true := by
      simpa [inRanges] using hbounds
    refine not_inRanges_of_disjoint ?_ hletter
    decide
  · rfl

/-- A tag's name: a start character and more characters of a name. -/
inductive IsTagName : List Char → Prop where
  | mk {c : Char} {rest : List Char} (hstart : isTagStart c = true)
      (hrest : ∀ d ∈ rest, isTagChar d = true) : IsTagName (c :: rest)

/-- There is no blank in the name of a tag. -/
theorem IsTagName.isBlank {name : List Char} (h : IsTagName name) :
    ∀ c ∈ name, isBlank c = false := by
  obtain ⟨hstart, hrest⟩ := h
  exact List.forall_mem_cons.mpr
    ⟨isBlank_of_isTagStart hstart, fun c hc ↦ isBlank_of_isTagChar (hrest c hc)⟩

/-- A tag line is the sign, the name, and the text behind blanks. -/
theorem tagLine?_sound {line name text : List Char} (h : tagLine? line = some (name, text)) :
    IsTagName name ∧ (∀ c ∈ text.head?, isBlank c = false) ∧
      ∃ blanks, (∀ c ∈ blanks, isBlank c = true) ∧ line = '@' :: (name ++ (blanks ++ text)) := by
  unfold tagLine? at h
  split at h
  · rename_i c rest
    split at h
    · rename_i hstart
      have hname : IsTagName (c :: rest.takeWhile isTagChar) :=
        .mk hstart fun _ hd ↦ List.mem_takeWhile_imp hd
      have hrest : rest.takeWhile isTagChar ++ rest.dropWhile isTagChar = rest :=
        List.takeWhile_append_dropWhile
      dsimp only at h
      split at h
      · rename_i hnil
        obtain ⟨rfl, rfl⟩ := Prod.mk.inj (Option.some.inj h)
        refine ⟨hname, fun _ hc ↦ (Option.not_mem_none _ hc).elim, [], List.forall_mem_nil _, ?_⟩
        rw [hnil, List.append_nil] at hrest
        simp [hrest]
      · rename_i after behind hbehind
        split at h
        · rename_i hblank
          obtain ⟨rfl, rfl⟩ := Prod.mk.inj (Option.some.inj h)
          refine ⟨hname, head_trimLeft behind, after :: behind.takeWhile isBlank,
            List.forall_mem_cons.mpr ⟨hblank, fun _ hc ↦ List.mem_takeWhile_imp hc⟩, ?_⟩
          have htext : after :: behind.takeWhile isBlank ++ trimLeft behind = after :: behind :=
            congrArg (after :: ·) (trimLeft_append_takeWhile behind)
          rw [htext, ← hbehind, List.cons_append, hrest]
        · cases h
    · cases h
  · cases h

/-! ## Sections -/

/-- The lines of a tag: the text on the tag line, if there is any, and the lines below. -/
def tagLines (text : List Char) (below : List (List Char)) : List (List Char) :=
  if text.isEmpty then below else text :: below

/-- A line that opens no tag goes to what stands before it. -/
theorem sections_of_prose {line : List Char} (h : tagLine? (trim line) = none)
    (rest : List (List Char)) :
    sections (line :: rest) = (line :: (sections rest).1, (sections rest).2) := by
  rw [sections, h]

/-- A tag line takes the lines up to the next one. -/
theorem sections_of_tag {line : List Char} {tag : List Char × List Char}
    (h : tagLine? (trim line) = some tag) (rest : List (List Char)) :
    sections (line :: rest) =
      ([], (tag.1, tagLines tag.2 (sections rest).1) :: (sections rest).2) := by
  rw [sections, h]
  rfl

/-- Every section is under the name of a tag. -/
theorem isTagName_of_sections (lines : List (List Char)) :
    ∀ tag ∈ (sections lines).2, IsTagName tag.1 := by
  induction lines with
  | nil => exact fun _ htag ↦ absurd htag List.not_mem_nil
  | cons line rest ih =>
    cases htag : tagLine? (trim line) with
    | none =>
      rw [sections_of_prose htag]
      exact ih
    | some tag =>
      rw [sections_of_tag htag]
      exact List.forall_mem_cons.mpr ⟨(tagLine?_sound htag).1, ih⟩

end Docstring

end Schematic
