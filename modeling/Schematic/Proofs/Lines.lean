import Mathlib.Data.List.Basic
import Mathlib.Data.List.Infix
import Mathlib.Data.List.TakeWhile
import Schematic.Text.Margin

/-!
# Lines and blank ends

Trimming leaves the part between two blank ends, and a text that neither begins nor ends
with a blank is left alone. Splitting at newlines and joining are inverse to each other;
splitting at all boundaries is inverse to joining where no line holds a boundary and the last
one is not empty. Lines of a trimmed text are lines of the text, up to blanks at their ends.
-/

namespace Schematic.Text

/-! ## Blank ends -/

/-- A text that neither begins nor ends with a blank. -/
structure Trimmed (cs : List Char) : Prop where
  head : ∀ c ∈ cs.head?, isBlank c = false
  last : ∀ c ∈ cs.getLast?, isBlank c = false

theorem trimmed_of_not_blank {cs : List Char} (h : ∀ c ∈ cs, isBlank c = false) : Trimmed cs where
  head c hc := h c (List.mem_of_mem_head? hc)
  last c hc := h c (List.mem_of_mem_getLast? hc)

/-- Nothing is trimmed off a text that begins with a mark. -/
theorem trimLeft_of_head {cs : List Char} (h : ∀ c ∈ cs.head?, isBlank c = false) :
    trimLeft cs = cs := by
  cases cs with
  | nil => rfl
  | cons c cs => exact trimLeft_of_not_isBlank (h c rfl)

/-- What is trimmed off the end is blank. -/
theorem exists_back (cs : List Char) :
    ∃ back, (∀ c ∈ back, isBlank c = true) ∧ cs = trimRight cs ++ back := by
  refine ⟨(cs.reverse.takeWhile isBlank).reverse, ?_, ?_⟩
  · intro c hc
    exact List.mem_takeWhile_imp (List.mem_reverse.mp hc)
  · rw [trimRight, ← List.reverse_append, List.takeWhile_append_dropWhile, List.reverse_reverse]

theorem last_trimRight (cs : List Char) : ∀ c ∈ (trimRight cs).getLast?, isBlank c = false := by
  intro c hc
  rw [trimRight, List.getLast?_reverse] at hc
  exact head_trimLeft cs.reverse c hc

/-- A text is its trimmed form between blanks. -/
theorem exists_ends (cs : List Char) : ∃ front back, (∀ c ∈ front, isBlank c = true) ∧
    (∀ c ∈ back, isBlank c = true) ∧ cs = front ++ (trim cs ++ back) := by
  obtain ⟨back, hback, hcs⟩ := exists_back (trimLeft cs)
  refine ⟨cs.takeWhile isBlank, back, fun _ hc ↦ List.mem_takeWhile_imp hc, hback, ?_⟩
  rw [trim, ← hcs, trimLeft_append_takeWhile]

theorem mem_of_mem_trim {c : Char} {cs : List Char} (h : c ∈ trim cs) : c ∈ cs := by
  obtain ⟨front, back, -, -, hcs⟩ := exists_ends cs
  rw [hcs]
  exact List.mem_append_right _ (List.mem_append_left _ h)

theorem trimmed_trim (cs : List Char) : Trimmed (trim cs) where
  head := by
    intro c hc
    obtain ⟨back, -, hcs⟩ := exists_back (trimLeft cs)
    apply head_trimLeft cs c
    rw [hcs]
    exact List.mem_head?_append_of_mem_head? hc
  last := last_trimRight _

/-- Trimming leaves what stands between blank ends. -/
theorem trim_of_ends {front middle back : List Char} (hfront : ∀ c ∈ front, isBlank c = true)
    (hmiddle : Trimmed middle) (hback : ∀ c ∈ back, isBlank c = true) :
    trim (front ++ (middle ++ back)) = middle := by
  have hleft : trimLeft (front ++ (middle ++ back)) = trimLeft (middle ++ back) :=
    List.dropWhile_append_of_pos hfront
  rw [trim, hleft]
  cases middle with
  | nil =>
    have hnone : trimLeft back = [] := List.dropWhile_eq_nil_iff.mpr hback
    rw [List.nil_append, hnone]
    rfl
  | cons c cs =>
    have hkept : trimLeft (c :: cs ++ back) = c :: cs ++ back :=
      trimLeft_of_not_isBlank (hmiddle.head c rfl)
    have hreverse : ∀ d ∈ (c :: cs).reverse.head?, isBlank d = false := by
      rw [List.head?_reverse]
      exact hmiddle.last
    have hright : (back.reverse ++ (c :: cs).reverse).dropWhile isBlank = (c :: cs).reverse := by
      rw [List.dropWhile_append_of_pos fun d hd ↦ hback d (List.mem_reverse.mp hd)]
      exact trimLeft_of_head hreverse
    rw [hkept, trimRight, List.reverse_append, hright, List.reverse_reverse]

theorem trim_of_trimmed {cs : List Char} (h : Trimmed cs) : trim cs = cs := by
  have hnone : ∀ c ∈ ([] : List Char), isBlank c = true := List.forall_mem_nil _
  have hends := trim_of_ends hnone h hnone
  rwa [List.nil_append, List.append_nil] at hends

theorem trim_append_of_blank {back : List Char} (hback : ∀ c ∈ back, isBlank c = true)
    (cs : List Char) : trim (cs ++ back) = trim cs := by
  obtain ⟨front, back', hfront, hback', hcs⟩ := exists_ends cs
  have hends := trim_of_ends hfront (trimmed_trim cs) (List.forall_mem_append.mpr ⟨hback', hback⟩)
  rwa [← List.append_assoc (trim cs), ← List.append_assoc front, ← hcs] at hends

theorem trim_of_blank_append {front : List Char} (hfront : ∀ c ∈ front, isBlank c = true)
    (cs : List Char) : trim (front ++ cs) = trim cs := by
  obtain ⟨front', back, hfront', hback, hcs⟩ := exists_ends cs
  have hends := trim_of_ends (List.forall_mem_append.mpr ⟨hfront, hfront'⟩) (trimmed_trim cs) hback
  rwa [List.append_assoc, ← hcs] at hends

/-- Behind a text without blanks at its ends, trimming takes from the right only. -/
theorem trim_append_of_trimmed {cs : List Char} (h : Trimmed cs) (hne : cs ≠ []) (rest : List Char) :
    trim (cs ++ rest) = cs ++ trimRight rest := by
  obtain ⟨back, hback, hrest⟩ := exists_back rest
  have hmiddle : Trimmed (cs ++ trimRight rest) := by
    constructor
    · intro c hc
      rw [List.head?_append_of_ne_nil _ hne] at hc
      exact h.head c hc
    · intro c hc
      by_cases hnil : trimRight rest = []
      · rw [hnil, List.append_nil] at hc
        exact h.last c hc
      · rw [List.getLast?_append_of_ne_nil _ hnil] at hc
        exact last_trimRight rest c hc
  have hends := trim_of_ends (List.forall_mem_nil _) hmiddle hback
  rwa [List.nil_append, List.append_assoc, ← hrest] at hends

/-! ## Newlines -/

theorem joinNewlines_cons_cons (line next : List Char) (lines : List (List Char)) :
    joinNewlines (line :: next :: lines) = line ++ '\n' :: joinNewlines (next :: lines) := by
  unfold joinNewlines
  rw [List.intercalate_cons_cons, List.append_assoc]
  rfl

theorem joinNewlines_singleton (line : List Char) : joinNewlines [line] = line :=
  List.intercalate_singleton

theorem mem_joinNewlines {c : Char} {lines : List (List Char)} (h : c ∈ joinNewlines lines) :
    c = '\n' ∨ ∃ line ∈ lines, c ∈ line := by
  induction lines with
  | nil => cases h
  | cons line lines ih =>
    cases lines with
    | nil =>
      rw [joinNewlines_singleton] at h
      exact .inr ⟨line, List.mem_cons_self, h⟩
    | cons next lines =>
      rw [joinNewlines_cons_cons] at h
      rcases List.mem_append.mp h with hline | hrest
      · exact .inr ⟨line, List.mem_cons_self, hline⟩
      · rcases List.mem_cons.mp hrest with hnewline | hrest
        · exact .inl hnewline
        · refine (ih hrest).imp_right ?_
          rintro ⟨other, hother, hc⟩
          exact ⟨other, List.mem_cons_of_mem _ hother, hc⟩

theorem splitNewlines_append {line : List Char} (h : '\n' ∉ line) (cs : List Char) :
    splitNewlines (line ++ '\n' :: cs) = line :: splitNewlines cs := by
  induction line with
  | nil => rfl
  | cons c line ih =>
    rw [List.mem_cons, not_or] at h
    rw [List.cons_append, splitNewlines, if_neg (Ne.symm h.1), ih h.2, consToFirst]

theorem splitNewlines_of_notMem {line : List Char} (h : '\n' ∉ line) :
    splitNewlines line = [line] := by
  induction line with
  | nil => rfl
  | cons c line ih =>
    rw [List.mem_cons, not_or] at h
    rw [splitNewlines, if_neg (Ne.symm h.1), ih h.2, consToFirst]

theorem splitNewlines_joinNewlines {lines : List (List Char)} (hlines : lines ≠ [])
    (h : ∀ line ∈ lines, '\n' ∉ line) : splitNewlines (joinNewlines lines) = lines := by
  induction lines with
  | nil => exact absurd rfl hlines
  | cons line lines ih =>
    obtain ⟨hline, hrest⟩ := List.forall_mem_cons.mp h
    cases lines with
    | nil =>
      rw [joinNewlines_singleton]
      exact splitNewlines_of_notMem hline
    | cons next lines =>
      rw [joinNewlines_cons_cons, splitNewlines_append hline, ih (List.cons_ne_nil _ _) hrest]

/-- A character that is no newline goes to the first line. -/
theorem exists_splitNewlines_cons {c : Char} (hc : c ≠ '\n') (cs : List Char) :
    ∃ line lines, splitNewlines cs = line :: lines ∧
      splitNewlines (c :: cs) = (c :: line) :: lines := by
  obtain ⟨line, lines, hsplit⟩ := List.exists_cons_of_ne_nil (splitNewlines_ne_nil cs)
  refine ⟨line, lines, hsplit, ?_⟩
  rw [splitNewlines, if_neg hc, hsplit, consToFirst]

/-- A text is put together again from its lines. -/
theorem joinNewlines_splitNewlines (cs : List Char) : joinNewlines (splitNewlines cs) = cs := by
  induction cs with
  | nil => rfl
  | cons c cs ih =>
    by_cases hc : c = '\n'
    · obtain ⟨line, lines, hsplit⟩ := List.exists_cons_of_ne_nil (splitNewlines_ne_nil cs)
      rw [splitNewlines, if_pos hc, hsplit, joinNewlines_cons_cons, ← hsplit, ih, hc]
      rfl
    · obtain ⟨line, lines, hsplit, hcons⟩ := exists_splitNewlines_cons hc cs
      rw [hsplit] at ih
      rw [hcons, ← ih]
      cases lines with
      | nil => rw [joinNewlines_singleton, joinNewlines_singleton]
      | cons next lines =>
        rw [joinNewlines_cons_cons, joinNewlines_cons_cons, List.cons_append]

theorem notMem_of_mem_splitNewlines {cs : List Char} :
    ∀ line ∈ splitNewlines cs, '\n' ∉ line := by
  induction cs with
  | nil => simp [splitNewlines]
  | cons c cs ih =>
    by_cases hc : c = '\n'
    · rw [splitNewlines, if_pos hc]
      exact List.forall_mem_cons.mpr ⟨List.not_mem_nil, ih⟩
    · obtain ⟨line, lines, hsplit, hcons⟩ := exists_splitNewlines_cons hc cs
      rw [hsplit] at ih
      rw [hcons]
      obtain ⟨hline, hlines⟩ := List.forall_mem_cons.mp ih
      refine List.forall_mem_cons.mpr ⟨?_, hlines⟩
      rw [List.mem_cons, not_or]
      exact ⟨Ne.symm hc, hline⟩

theorem mem_of_mem_splitNewlines {cs : List Char} {c : Char} :
    ∀ line ∈ splitNewlines cs, c ∈ line → c ∈ cs := by
  induction cs with
  | nil => simp [splitNewlines]
  | cons d cs ih =>
    by_cases hd : d = '\n'
    · rw [splitNewlines, if_pos hd]
      refine List.forall_mem_cons.mpr ⟨fun hc ↦ absurd hc List.not_mem_nil, ?_⟩
      exact fun line hline hc ↦ List.mem_cons_of_mem _ (ih line hline hc)
    · obtain ⟨line, lines, hsplit, hcons⟩ := exists_splitNewlines_cons hd cs
      rw [hsplit] at ih
      rw [hcons]
      obtain ⟨hline, hlines⟩ := List.forall_mem_cons.mp ih
      refine List.forall_mem_cons.mpr ⟨fun hc ↦ ?_, fun line hline hc ↦ ?_⟩
      · exact (List.mem_cons.mp hc).elim (fun h ↦ h ▸ List.mem_cons_self)
          fun h ↦ List.mem_cons_of_mem _ (hline h)
      · exact List.mem_cons_of_mem _ (hlines line hline hc)

/-- A character at the end goes to the last line, or opens an empty one. -/
theorem exists_splitNewlines_snoc (cs : List Char) (c : Char) :
    ∃ init last, splitNewlines cs = init ++ [last] ∧
      splitNewlines (cs ++ [c]) = init ++ if c = '\n' then [last, []] else [last ++ [c]] := by
  induction cs with
  | nil =>
    refine ⟨[], [], rfl, ?_⟩
    rw [List.nil_append, splitNewlines]
    rfl
  | cons d cs ih =>
    obtain ⟨init, last, hsplit, hsnoc⟩ := ih
    rw [List.cons_append, splitNewlines, splitNewlines, hsplit, hsnoc]
    by_cases hd : d = '\n'
    · exact ⟨[] :: init, last, by rw [if_pos hd]; rfl, by rw [if_pos hd]; rfl⟩
    · rw [if_neg hd, if_neg hd]
      cases init with
      | nil =>
        refine ⟨[], d :: last, rfl, ?_⟩
        split <;> rfl
      | cons line init => exact ⟨(d :: line) :: init, last, rfl, rfl⟩

/-! ## Lines of a trimmed text -/

/-- The lines of a text without blanks at their ends. -/
def lineTexts (cs : List Char) : List (List Char) :=
  (splitNewlines cs).map trim

/-- Joined lines have the texts of the lines. -/
theorem lineTexts_joinNewlines {lines : List (List Char)} (hlines : lines ≠ [])
    (h : ∀ line ∈ lines, '\n' ∉ line) : lineTexts (joinNewlines lines) = lines.map trim := by
  rw [lineTexts, splitNewlines_joinNewlines hlines h]

theorem lineTexts_dropFront {front : List Char} (hfront : ∀ c ∈ front, isBlank c = true)
    (cs : List Char) : lineTexts cs <:+ lineTexts (front ++ cs) := by
  induction front with
  | nil => exact List.suffix_rfl
  | cons c front ih =>
    obtain ⟨hblank, hrest⟩ := List.forall_mem_cons.mp hfront
    apply (ih hrest).trans
    unfold lineTexts
    by_cases hc : c = '\n'
    · rw [List.cons_append, splitNewlines, if_pos hc]
      exact List.suffix_cons _ _
    · obtain ⟨line, lines, hsplit, hcons⟩ := exists_splitNewlines_cons hc (front ++ cs)
      have htrim : trim (c :: line) = trim line :=
        trim_of_blank_append (List.forall_mem_singleton.mpr hblank) line
      rw [List.cons_append, hcons, hsplit, List.map_cons, List.map_cons, htrim]

theorem lineTexts_dropBack {back : List Char} (hback : ∀ c ∈ back, isBlank c = true)
    (cs : List Char) : lineTexts cs <+: lineTexts (cs ++ back) := by
  induction back using List.reverseRecOn with
  | nil => rw [List.append_nil]
  | append_singleton back c ih =>
    obtain ⟨hrest, hc⟩ := List.forall_mem_append.mp hback
    apply (ih hrest).trans
    have hblank := hc c List.mem_cons_self
    obtain ⟨init, last, hsplit, hsnoc⟩ := exists_splitNewlines_snoc (cs ++ back) c
    unfold lineTexts
    rw [← List.append_assoc, hsnoc, hsplit]
    split
    · exact ⟨[trim []], by simp⟩
    · have htrim : trim (last ++ [c]) = trim last :=
        trim_append_of_blank (List.forall_mem_singleton.mpr hblank) last
      simp [htrim]

/-- Trimming a text drops blank lines at its ends at most. -/
theorem lineTexts_trim (cs : List Char) : lineTexts (trim cs) <:+: lineTexts cs := by
  obtain ⟨front, back, hfront, hback, hcs⟩ := exists_ends cs
  have hsuffix := lineTexts_dropFront hfront (trim cs ++ back)
  rw [← hcs] at hsuffix
  exact (lineTexts_dropBack hback (trim cs)).isInfix.trans hsuffix.isInfix

/-- Trimming leaves a first line without blanks at its ends alone. -/
theorem head_splitNewlines_trim {line : List Char} (h : Trimmed line) (hne : line ≠ [])
    (hline : '\n' ∉ line) (lines : List (List Char)) :
    (splitNewlines (trim (joinNewlines (line :: lines)))).head? = some line := by
  cases lines with
  | nil =>
    rw [joinNewlines_singleton, trim_of_trimmed h, splitNewlines_of_notMem hline]
    rfl
  | cons next lines =>
    obtain ⟨back, -, hback⟩ := exists_back ('\n' :: joinNewlines (next :: lines))
    rw [joinNewlines_cons_cons, trim_append_of_trimmed h hne]
    cases hright : trimRight ('\n' :: joinNewlines (next :: lines)) with
    | nil =>
      rw [List.append_nil, splitNewlines_of_notMem hline]
      rfl
    | cons c cs =>
      rw [hright, List.cons_append] at hback
      rw [← (List.cons.inj hback).1, splitNewlines_append hline]
      rfl

theorem ne_newline_of_not_blank {c : Char} (h : isBlank c = false) : c ≠ '\n' := by
  rintro rfl
  cases h

/-- The first line of a text that begins with no blank begins with none. -/
theorem head_splitNewlines {cs : List Char} (h : Trimmed cs) (hne : cs ≠ []) :
    ∀ line ∈ (splitNewlines cs).head?, ∃ c ∈ line.head?, isBlank c = false := by
  cases cs with
  | nil => exact absurd rfl hne
  | cons c cs =>
    have hc : isBlank c = false := h.head c rfl
    have hnewline : c ≠ '\n' := ne_newline_of_not_blank hc
    obtain ⟨line, lines, -, hcons⟩ := exists_splitNewlines_cons hnewline cs
    rw [hcons]
    intro first hfirst
    cases hfirst
    exact ⟨c, rfl, hc⟩

/-- The last line of a text that does not end with a blank is not empty. -/
theorem last_splitNewlines {cs : List Char} (h : Trimmed cs) (hne : cs ≠ []) :
    [] ∉ (splitNewlines cs).getLast? := by
  induction cs using List.reverseRecOn with
  | nil => exact absurd rfl hne
  | append_singleton cs c =>
    have hc : isBlank c = false := h.last c List.getLast?_concat
    have hnewline : c ≠ '\n' := ne_newline_of_not_blank hc
    obtain ⟨init, last, -, hsnoc⟩ := exists_splitNewlines_snoc cs c
    rw [hsnoc, if_neg hnewline, List.getLast?_concat]
    intro hlast
    exact List.append_ne_nil_of_right_ne_nil _ (List.cons_ne_nil _ _) (Option.some.inj hlast)

/-- What holds of all later parts of a list holds of the later parts of a segment. -/
theorem mem_tail_of_segment {α : Type} {part whole : List α} (h : part <:+: whole) {a : α}
    (ha : a ∈ part.tail) : a ∈ whole.tail := by
  obtain ⟨front, back, rfl⟩ := h
  cases front with
  | nil =>
    cases part with
    | nil => cases ha
    | cons first rest => exact List.mem_append_left _ ha
  | cons first front =>
    exact List.mem_append_left _ (List.mem_append_right _ (List.mem_of_mem_tail ha))

/-! ## Boundaries -/

theorem splitLines_cons {c : Char} (hc : isLineBoundary c = false) (cs : List Char) :
    splitLines (c :: cs) = consToFirst c (splitLines cs) := by
  generalize htext : c :: cs = text
  fun_cases splitLines text with
  | case1 => cases htext
  | case2 =>
    rw [(List.cons.inj htext).1] at hc
    exact absurd hc (by decide)
  | case3 d rest _ hboundary =>
    rw [(List.cons.inj htext).1, hboundary] at hc
    cases hc
  | case4 d rest =>
    cases htext
    rfl

theorem splitLines_append {line : List Char} (h : ∀ c ∈ line, isLineBoundary c = false)
    (cs : List Char) : splitLines (line ++ '\n' :: cs) = line :: splitLines cs := by
  induction line with
  | nil => rfl
  | cons c line ih =>
    obtain ⟨hc, hline⟩ := List.forall_mem_cons.mp h
    rw [List.cons_append, splitLines_cons hc, ih hline, consToFirst]

theorem splitLines_of_plain {line : List Char} (hne : line ≠ [])
    (h : ∀ c ∈ line, isLineBoundary c = false) : splitLines line = [line] := by
  induction line with
  | nil => exact absurd rfl hne
  | cons c line ih =>
    obtain ⟨hc, hline⟩ := List.forall_mem_cons.mp h
    rw [splitLines_cons hc]
    by_cases hnil : line = []
    · rw [hnil]
      rfl
    · rw [ih hnil hline, consToFirst]

/-- Lines without boundaries are found again, unless the last one is empty. -/
theorem splitLines_joinNewlines {lines : List (List Char)} (hlast : [] ∉ lines.getLast?)
    (h : ∀ line ∈ lines, ∀ c ∈ line, isLineBoundary c = false) :
    splitLines (joinNewlines lines) = lines := by
  induction lines with
  | nil => rfl
  | cons line lines ih =>
    obtain ⟨hline, hrest⟩ := List.forall_mem_cons.mp h
    cases lines with
    | nil =>
      rw [joinNewlines_singleton]
      exact splitLines_of_plain (fun hnil ↦ hlast (congrArg some hnil)) hline
    | cons next lines =>
      rw [List.getLast?_cons_cons] at hlast
      rw [joinNewlines_cons_cons, splitLines_append hline, ih hlast hrest]

/-- No line holds a boundary, or a character that is not in the text. -/
theorem plain_of_mem_splitLines {cs : List Char} :
    ∀ line ∈ splitLines cs, ∀ c ∈ line, c ∈ cs ∧ isLineBoundary c = false := by
  have hmore {c : Char} {cs : List Char} {lines : List (List Char)}
      (h : ∀ line ∈ lines, ∀ d ∈ line, d ∈ cs ∧ isLineBoundary d = false) :
      ∀ line ∈ lines, ∀ d ∈ line, d ∈ c :: cs ∧ isLineBoundary d = false :=
    fun line hline d hd ↦ (h line hline d hd).imp_left (List.mem_cons_of_mem _)
  have hnone (cs : List Char) : ∀ d ∈ [], d ∈ cs ∧ isLineBoundary d = false :=
    fun _ hd ↦ absurd hd List.not_mem_nil
  fun_induction splitLines cs with
  | case1 => exact fun _ hline ↦ absurd hline List.not_mem_nil
  | case2 rest ih => exact List.forall_mem_cons.mpr ⟨hnone _, hmore (hmore ih)⟩
  | case3 c rest _ _ ih => exact List.forall_mem_cons.mpr ⟨hnone _, hmore ih⟩
  | case4 c rest _ hc ih =>
    rw [Bool.not_eq_true] at hc
    cases hsplit : splitLines rest with
    | nil => simp [consToFirst, hc]
    | cons line lines =>
      rw [hsplit] at ih
      have hall : ∀ other ∈ line :: lines, ∀ d ∈ other, d ∈ c :: rest ∧ isLineBoundary d = false :=
        hmore ih
      obtain ⟨hline, hlines⟩ := List.forall_mem_cons.mp hall
      exact List.forall_mem_cons.mpr
        ⟨List.forall_mem_cons.mpr ⟨⟨List.mem_cons_self, hc⟩, hline⟩, hlines⟩

/-! ## Margins -/

theorem notMem_expandTabs (cs : List Char) : '\t' ∉ expandTabs cs := by
  have hfrom (column : Nat) : '\t' ∉ expandTabsFrom column cs := by
    induction cs generalizing column with
    | nil => exact List.not_mem_nil
    | cons c cs ih =>
      unfold expandTabsFrom
      split
      · rw [List.mem_append, not_or]
        refine ⟨fun htab ↦ ?_, ih _⟩
        cases List.eq_of_mem_replicate htab
      · rename_i hc
        rw [List.mem_cons, not_or]
        exact ⟨Ne.symm hc, ih _⟩
  exact hfrom 0

theorem mem_of_mem_expandTabs {cs : List Char} {c : Char} (h : c ∈ expandTabs cs) :
    c = ' ' ∨ c ∈ cs := by
  have hfrom (column : Nat) : c ∈ expandTabsFrom column cs → c = ' ' ∨ c ∈ cs := by
    clear h
    induction cs generalizing column with
    | nil => exact Or.inr
    | cons d cs ih =>
      intro h
      unfold expandTabsFrom at h
      split at h
      · rcases List.mem_append.mp h with hspace | hrest
        · exact .inl (List.eq_of_mem_replicate hspace)
        · exact (ih _ hrest).imp_right (List.mem_cons_of_mem d)
      · rcases List.mem_cons.mp h with rfl | hrest
        · exact .inr List.mem_cons_self
        · exact (ih _ hrest).imp_right (List.mem_cons_of_mem d)
  exact hfrom 0 h

theorem expandTabs_of_notMem {cs : List Char} (h : '\t' ∉ cs) : expandTabs cs = cs := by
  have hfrom (column : Nat) : expandTabsFrom column cs = cs := by
    induction cs generalizing column with
    | nil => rfl
    | cons c cs ih =>
      rw [List.mem_cons, not_or] at h
      rw [expandTabsFrom, if_neg (Ne.symm h.1), ih h.2]
  exact hfrom 0

/-- The margin is no wider than the indentation of a line. -/
theorem margin_le {lines : List (List Char)} {line : List Char} {indentation : Nat}
    (hline : line ∈ lines) (h : indentation? line = some indentation) :
    (margin? lines).getD 0 ≤ indentation := by
  have hmem : indentation ∈ lines.filterMap indentation? := List.mem_filterMap.mpr ⟨line, hline, h⟩
  unfold margin?
  cases hmin : (lines.filterMap indentation?).min? with
  | none => exact Nat.zero_le _
  | some least => exact (List.min?_eq_some_iff.mp hmin).2 indentation hmem

/-- Nothing comes in where a margin is removed. -/
theorem mem_of_mem_removeMargin {lines : List (List Char)} {c : Char} :
    ∀ line ∈ removeMargin lines, c ∈ line → ∃ other ∈ lines, c ∈ other := by
  cases lines with
  | nil => exact fun _ hline ↦ absurd hline List.not_mem_nil
  | cons first later =>
    refine List.forall_mem_cons.mpr ⟨fun hc ↦ ?_, fun line hline hc ↦ ?_⟩
    · exact ⟨first, List.mem_cons_self, (List.dropWhile_sublist isBlank).subset hc⟩
    · obtain ⟨other, hother, rfl⟩ := List.mem_map.mp hline
      exact ⟨other, List.mem_cons_of_mem _ hother, List.mem_of_mem_drop hc⟩

theorem mem_of_mem_dropEmptyEnds {lines : List (List Char)} {line : List Char}
    (h : line ∈ dropEmptyEnds lines) : line ∈ lines := by
  have hkept := (List.dropWhile_sublist List.isEmpty).subset h
  exact List.mem_reverse.mp ((List.dropWhile_sublist List.isEmpty).subset (List.mem_reverse.mp hkept))

/-- Empty lines are all that is missing at the ends. -/
theorem exists_dropEmptyEnds (lines : List (List Char)) :
    ∃ front back, (∀ line ∈ front, line = []) ∧ (∀ line ∈ back, line = []) ∧
      lines = front ++ (dropEmptyEnds lines ++ back) := by
  let kept := (lines.reverse.dropWhile List.isEmpty).reverse
  let back := (lines.reverse.takeWhile List.isEmpty).reverse
  have hlines : kept ++ back = lines := by
    rw [← List.reverse_append, List.takeWhile_append_dropWhile, List.reverse_reverse]
  refine ⟨kept.takeWhile List.isEmpty, back, ?_, ?_, ?_⟩
  · exact fun _ h ↦ List.isEmpty_iff.mp (List.mem_takeWhile_imp h)
  · exact fun _ h ↦ List.isEmpty_iff.mp (List.mem_takeWhile_imp (List.mem_reverse.mp h))
  · rw [← List.append_assoc, dropEmptyEnds, List.takeWhile_append_dropWhile, hlines]

/-- Nothing is dropped before a line with a text. -/
theorem dropWhile_isEmpty_of_head {lines : List (List Char)} (h : [] ∉ lines.head?) :
    lines.dropWhile List.isEmpty = lines := by
  rcases lines with _ | ⟨_ | ⟨c, line⟩, lines⟩
  · rfl
  · exact absurd rfl h
  · rfl

/-- No tab is left in a text without its margin. -/
theorem notMem_unindent (cs : List Char) : '\t' ∉ unindent cs := by
  intro htab
  rcases mem_joinNewlines htab with hnewline | ⟨line, hline, hc⟩
  · cases hnewline
  · obtain ⟨other, hother, hc⟩ := mem_of_mem_removeMargin line (mem_of_mem_dropEmptyEnds hline) hc
    exact notMem_expandTabs cs (mem_of_mem_splitNewlines other hother hc)

/-- An empty line in front of lines at the left edge is all that a margin removes. -/
theorem unindent_joinNewlines {c : Char} {cs : List Char} {lines : List (List Char)}
    (hc : isBlank c = false) (hlast : [] ∉ ((c :: cs) :: lines).getLast?)
    (hplain : ∀ line ∈ (c :: cs) :: lines, '\n' ∉ line ∧ '\t' ∉ line) :
    unindent (joinNewlines ([] :: (c :: cs) :: lines)) = joinNewlines ((c :: cs) :: lines) := by
  have htabs : '\t' ∉ joinNewlines ([] :: (c :: cs) :: lines) := by
    intro htab
    rcases mem_joinNewlines htab with hnewline | ⟨line, hline, htab⟩
    · cases hnewline
    · rcases List.mem_cons.mp hline with rfl | hline
      · cases htab
      · exact (hplain line hline).2 htab
  have hsplit : splitNewlines (joinNewlines ([] :: (c :: cs) :: lines)) =
      [] :: (c :: cs) :: lines := by
    apply splitNewlines_joinNewlines (List.cons_ne_nil _ _)
    exact List.forall_mem_cons.mpr ⟨List.not_mem_nil, fun line hline ↦ (hplain line hline).1⟩
  have hindentation : indentation? (c :: cs) = some 0 := by
    simp [indentation?, trimLeft, hc]
  have hmargin : (margin? ((c :: cs) :: lines)).getD 0 = 0 :=
    Nat.le_zero.mp (margin_le List.mem_cons_self hindentation)
  have hmoved : removeMargin ([] :: (c :: cs) :: lines) = [] :: (c :: cs) :: lines := by
    have hkept : ((c :: cs) :: lines).map (List.drop 0) = (c :: cs) :: lines := List.map_id' _
    dsimp only [removeMargin]
    rw [hmargin, hkept]
    rfl
  have hends : dropEmptyEnds ([] :: (c :: cs) :: lines) = (c :: cs) :: lines := by
    have hback : ([] :: (c :: cs) :: lines).reverse.dropWhile List.isEmpty =
        ([] :: (c :: cs) :: lines).reverse := by
      apply dropWhile_isEmpty_of_head
      rwa [List.head?_reverse, List.getLast?_cons_cons]
    rw [dropEmptyEnds, hback, List.reverse_reverse]
    rfl
  unfold unindent
  rw [expandTabs_of_notMem htabs, hsplit, hmoved, hends]

end Schematic.Text
