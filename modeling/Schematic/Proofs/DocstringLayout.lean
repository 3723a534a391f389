import Mathlib.Data.List.Forall2
import Schematic.Proofs.KeptText

/-!
# The layout of a docstring

A docstring means the same at any depth of nesting and with either ending of its lines. The
margin is taken at newlines, but tags are looked for in the lines between all boundaries, so a
text without its margin is taken apart at its newlines once more, and each part gives lines of
its own. Blank lines at either end go with the blanks around the first and the last section.
More indentation only moves the margin, unless all later lines are blank, and then they are
lines at the end. A carriage return in front of a newline belongs to the end of its line,
whether the margin of a blank line takes it away or not.
-/

namespace Schematic

namespace Text

/-! ## Layouts -/

/-- A text with more spaces in front of every line but the first. -/
def indentLater (count : Nat) (cs : List Char) : List Char :=
  match splitNewlines cs with
  | [] => []
  | first :: later => joinNewlines (first :: later.map (List.replicate count ' ' ++ ·))

/-- A text with a carriage return in front of every newline. -/
def withReturns (cs : List Char) : List Char :=
  cs.flatMap fun c ↦ if c = '\n' then ['\r', '\n'] else [c]

theorem withReturns_newline (cs : List Char) :
    withReturns ('\n' :: cs) = '\r' :: '\n' :: withReturns cs := rfl

theorem withReturns_cons {c : Char} (hc : c ≠ '\n') (cs : List Char) :
    withReturns (c :: cs) = c :: withReturns cs := by
  rw [withReturns, List.flatMap_cons, if_neg hc]
  rfl

theorem marks_withReturns (cs : List Char) : marks (withReturns cs) = marks cs := by
  induction cs with
  | nil => rfl
  | cons c cs ih =>
    by_cases hc : c = '\n'
    · rw [hc, withReturns_newline, marks_cons_of_blank rfl, marks_cons_of_blank rfl,
        marks_cons_of_blank rfl, ih]
    · rw [withReturns_cons hc, ← List.singleton_append, ← List.singleton_append (l := cs),
        marks_append, marks_append, ih]

/-! ## Blank lines -/

def AreBlank (lines : List (List Char)) : Prop :=
  ∀ line ∈ lines, ∀ c ∈ line, isBlank c = true

theorem areBlank_of_empty {lines : List (List Char)} (h : ∀ line ∈ lines, line = []) :
    AreBlank lines := by
  intro line hline
  rw [h line hline]
  exact List.forall_mem_nil _

/-- Lines with more lines behind them, which are blank. -/
inductive Padded (lines : List (List Char)) : List (List Char) → Prop where
  | mk {back : List (List Char)} (hback : AreBlank back) : Padded lines (lines ++ back)

theorem padded_self (lines : List (List Char)) : Padded lines lines := by
  have hpadded : Padded lines (lines ++ []) := .mk (List.forall_mem_nil _)
  rwa [List.append_nil] at hpadded

theorem Padded.append_left {lines lines' : List (List Char)} (front : List (List Char))
    (h : Padded lines lines') : Padded (front ++ lines) (front ++ lines') := by
  obtain ⟨hback⟩ := h
  rw [← List.append_assoc]
  exact .mk hback

theorem Padded.cons {lines lines' : List (List Char)} (line : List Char) (h : Padded lines lines') :
    Padded (line :: lines) (line :: lines') :=
  h.append_left [line]

/-- A character in front of the first line leaves the lines behind alone. -/
theorem Padded.consToFirst {lines lines' : List (List Char)} (c : Char) (h : Padded lines lines')
    (hne : lines ≠ []) : Padded (consToFirst c lines) (consToFirst c lines') := by
  obtain ⟨line, lines, rfl⟩ := List.exists_cons_of_ne_nil hne
  obtain ⟨hback⟩ := h
  exact .mk hback

/-- A blank line in front of a text is trimmed off. -/
theorem trim_joinNewlines_cons {line : List Char} (hline : ∀ c ∈ line, isBlank c = true)
    (lines : List (List Char)) : trim (joinNewlines (line :: lines)) = trim (joinNewlines lines) := by
  cases lines with
  | nil =>
    rw [joinNewlines_singleton, trim_eq_nil_iff.mpr hline]
    rfl
  | cons next lines =>
    have hfront : ∀ c ∈ line ++ ['\n'], isBlank c = true :=
      List.forall_mem_append.mpr ⟨hline, List.forall_mem_singleton.mpr rfl⟩
    rw [joinNewlines_cons_cons, ← List.singleton_append, ← List.append_assoc,
      trim_of_blank_append hfront]

/-- Blank lines behind a text are blanks behind it. -/
theorem exists_joinNewlines_append {back : List (List Char)} (hback : AreBlank back)
    (lines : List (List Char)) :
    ∃ blanks, (∀ c ∈ blanks, isBlank c = true) ∧
      joinNewlines (lines ++ back) = joinNewlines lines ++ blanks := by
  have hjoined : ∀ c ∈ joinNewlines back, isBlank c = true := by
    intro c hc
    rcases mem_joinNewlines hc with rfl | ⟨line, hline, hc⟩
    · rfl
    · exact hback line hline c hc
  induction lines with
  | nil => exact ⟨joinNewlines back, hjoined, rfl⟩
  | cons line lines ih =>
    cases lines with
    | nil =>
      cases back with
      | nil => exact ⟨[], List.forall_mem_nil _, by simp⟩
      | cons next back =>
        refine ⟨'\n' :: joinNewlines (next :: back), List.forall_mem_cons.mpr ⟨rfl, hjoined⟩, ?_⟩
        rw [List.singleton_append, joinNewlines_cons_cons, joinNewlines_singleton]
    | cons next lines =>
      obtain ⟨blanks, hblanks, hjoin⟩ := ih
      refine ⟨blanks, hblanks, ?_⟩
      rw [List.cons_append, List.cons_append, joinNewlines_cons_cons, ← List.cons_append, hjoin,
        joinNewlines_cons_cons, List.append_assoc, List.cons_append]

theorem Padded.trim_joinNewlines {lines lines' : List (List Char)} (h : Padded lines lines') :
    trim (joinNewlines lines') = trim (joinNewlines lines) := by
  obtain ⟨hback⟩ := h
  obtain ⟨blanks, hblanks, hjoin⟩ := exists_joinNewlines_append hback lines
  rw [hjoin, trim_append_of_blank hblanks]

/-! ## Lines of parts -/

/-- The lines of a part of a text that a newline ends. -/
def endedLines (part : List Char) : List (List Char) :=
  splitLines (part ++ ['\n'])

theorem areBlank_endedLines {part : List Char} (h : ∀ c ∈ part, isBlank c = true) :
    AreBlank (endedLines part) := by
  intro line hline c hc
  rcases List.mem_append.mp (plain_of_mem_splitLines line hline c hc).1 with hmem | hnewline
  · exact h c hmem
  · rw [List.mem_singleton.mp hnewline]
    rfl

theorem areBlank_flatMap_endedLines {parts : List (List Char)} (h : AreBlank parts) :
    AreBlank (parts.flatMap endedLines) := by
  intro line hline
  obtain ⟨part, hpart, hline⟩ := List.mem_flatMap.mp hline
  exact areBlank_endedLines (h part hpart) line hline

/-- A character that is no carriage return is a boundary on its own, or goes to the first line. -/
theorem splitLines_cons_of_ne {c : Char} (hc : c ≠ '\r') (cs : List Char) :
    splitLines (c :: cs) =
      if isLineBoundary c then [] :: splitLines cs else consToFirst c (splitLines cs) := by
  generalize htext : c :: cs = text
  fun_cases splitLines text with
  | case1 => cases htext
  | case2 => exact absurd (List.cons.inj htext).1 hc
  | case3 d rest _ hboundary =>
    cases htext
    rw [if_pos hboundary]
  | case4 d rest _ hboundary =>
    cases htext
    rw [if_neg hboundary]

/-- A carriage return ends a line by itself unless a newline follows. -/
theorem splitLines_return {c : Char} (hc : c ≠ '\n') (cs : List Char) :
    splitLines ('\r' :: c :: cs) = [] :: splitLines (c :: cs) := by
  generalize htext : '\r' :: c :: cs = text
  fun_cases splitLines text with
  | case1 => cases htext
  | case2 rest => exact absurd (List.cons.inj (List.cons.inj htext).2).1 hc
  | case3 d rest =>
    cases htext
    rfl
  | case4 d rest _ hboundary =>
    cases htext
    exact absurd rfl hboundary

theorem splitLines_ne_nil {cs : List Char} (h : cs ≠ []) : splitLines cs ≠ [] := by
  fun_cases splitLines cs with
  | case1 => exact absurd rfl h
  | case2 => exact List.cons_ne_nil _ _
  | case3 => exact List.cons_ne_nil _ _
  | case4 c rest => exact consToFirst_ne_nil c _

theorem endedLines_ne_nil (part : List Char) : endedLines part ≠ [] :=
  splitLines_ne_nil (List.append_ne_nil_of_right_ne_nil _ (List.cons_ne_nil _ _))

theorem consToFirst_append {lines : List (List Char)} (h : lines ≠ []) (c : Char)
    (rest : List (List Char)) : consToFirst c (lines ++ rest) = consToFirst c lines ++ rest := by
  obtain ⟨line, lines, rfl⟩ := List.exists_cons_of_ne_nil h
  rfl

/-- The lines up to a newline and those behind it. -/
theorem splitLines_append_newline (part rest : List Char) :
    splitLines (part ++ '\n' :: rest) = endedLines part ++ splitLines rest := by
  unfold endedLines
  fun_induction splitLines part with
  | case1 => rfl
  | case2 part ih => exact congrArg ([] :: ·) ih
  | case3 c part hnext hboundary ih =>
    by_cases hc : c = '\r'
    · subst hc
      cases part with
      | nil => rfl
      | cons d part =>
        have hd : d ≠ '\n' := fun h ↦ hnext part rfl (h ▸ rfl)
        simp only [List.cons_append] at ih ⊢
        rw [splitLines_return hd, splitLines_return hd, ih, List.cons_append]
    · rw [List.cons_append, List.cons_append, splitLines_cons_of_ne hc, splitLines_cons_of_ne hc,
        if_pos hboundary, if_pos hboundary, ih, List.cons_append]
  | case4 c part _ hboundary ih =>
    rw [Bool.not_eq_true] at hboundary
    rw [List.cons_append, List.cons_append, splitLines_cons hboundary, splitLines_cons hboundary, ih]
    exact consToFirst_append (endedLines_ne_nil part) c _

/-- A newline at the end of a text adds an empty line at most. -/
theorem padded_endedLines (part : List Char) : Padded (splitLines part) (endedLines part) := by
  have hempty : AreBlank [[]] := List.forall_mem_singleton.mpr (List.forall_mem_nil _)
  unfold endedLines
  fun_induction splitLines part with
  | case1 => exact .mk hempty
  | case2 part ih => exact ih.cons []
  | case3 c part hnext hboundary ih =>
    by_cases hc : c = '\r'
    · subst hc
      cases part with
      | nil => exact padded_self _
      | cons d part =>
        have hd : d ≠ '\n' := fun h ↦ hnext part rfl (h ▸ rfl)
        rw [List.cons_append, List.cons_append, splitLines_return hd, ← List.cons_append]
        exact ih.cons []
    · rw [List.cons_append, splitLines_cons_of_ne hc, if_pos hboundary]
      exact ih.cons []
  | case4 c part _ hboundary ih =>
    rw [Bool.not_eq_true] at hboundary
    rw [List.cons_append, splitLines_cons hboundary]
    cases part with
    | nil => exact padded_self _
    | cons d part => exact ih.consToFirst c (splitLines_ne_nil (List.cons_ne_nil _ _))

/-- A text that is put together at newlines has the lines of its parts. -/
theorem padded_splitLines_joinNewlines (parts : List (List Char)) :
    Padded (splitLines (joinNewlines parts)) (parts.flatMap endedLines) := by
  induction parts with
  | nil => exact padded_self _
  | cons part parts ih =>
    cases parts with
    | nil =>
      rw [joinNewlines_singleton, List.flatMap_singleton]
      exact padded_endedLines part
    | cons next parts =>
      rw [joinNewlines_cons_cons, splitLines_append_newline, List.flatMap_cons]
      exact ih.append_left (endedLines part)

/-! ## Indentation -/

/-- More spaces in front of a line add to its indentation, if it has one. -/
theorem indentation?_replicate_append (count : Nat) (line : List Char) :
    indentation? (List.replicate count ' ' ++ line) = (indentation? line).map (count + ·) := by
  have hspaces : ∀ c ∈ List.replicate count ' ', isBlank c = true := by
    intro c hc
    rw [List.eq_of_mem_replicate hc]
    rfl
  unfold indentation? trimLeft
  rw [List.dropWhile_append_of_pos hspaces, List.takeWhile_append_of_pos hspaces]
  split
  · rfl
  · rw [List.length_append, List.length_replicate, Option.map_some]

theorem margin?_map_append (count : Nat) (lines : List (List Char)) :
    margin? (lines.map (List.replicate count ' ' ++ ·)) = (margin? lines).map (count + ·) := by
  have hindentations : (lines.map (List.replicate count ' ' ++ ·)).filterMap indentation? =
      (lines.filterMap indentation?).map (count + ·) := by
    rw [List.filterMap_map, List.map_filterMap]
    exact List.filterMap_congr fun line _ ↦ indentation?_replicate_append count line
  unfold margin?
  rw [hindentations]
  cases hmin : (lines.filterMap indentation?).min? with
  | none =>
    rw [List.min?_eq_none_iff] at hmin
    rw [hmin]
    rfl
  | some least =>
    obtain ⟨hmem, hleast⟩ := List.min?_eq_some_iff.mp hmin
    refine List.min?_eq_some_iff.mpr ⟨List.mem_map_of_mem hmem, ?_⟩
    intro other hother
    obtain ⟨indentation, hindentation, rfl⟩ := List.mem_map.mp hother
    exact Nat.add_le_add_left (hleast indentation hindentation) count

/-- Where there is a margin, more indentation moves it. -/
theorem removeMargin_map_append {first : List Char} {later : List (List Char)} {margin : Nat}
    (h : margin? later = some margin) (count : Nat) :
    removeMargin (first :: later.map (List.replicate count ' ' ++ ·)) =
      removeMargin (first :: later) := by
  have hdrop (line : List Char) :
      (List.replicate count ' ' ++ line).drop (count + margin) = line.drop margin := by
    have hlength : (List.replicate count ' ').length = count := List.length_replicate
    rw [← List.drop_drop, List.drop_left' hlength]
  dsimp only [removeMargin]
  rw [margin?_map_append, h, Option.map_some, Option.getD_some, Option.getD_some, List.map_map]
  exact congrArg _ (List.map_congr_left fun line _ ↦ hdrop line)

theorem areBlank_of_margin?_eq_none {lines : List (List Char)} (h : margin? lines = none) :
    AreBlank lines := by
  intro line hline
  have hnone : indentation? line = none :=
    List.filterMap_eq_nil_iff.mp (List.min?_eq_none_iff.mp h) line hline
  unfold indentation? at hnone
  split at hnone
  · rename_i hempty
    exact List.dropWhile_eq_nil_iff.mp (List.isEmpty_iff.mp hempty)
  · cases hnone

/-- All lines but the first one get the spaces. -/
theorem splitNewlines_indentLater {cs first : List Char} {later : List (List Char)}
    (h : splitNewlines cs = first :: later) (count : Nat) :
    splitNewlines (indentLater count cs) =
      first :: later.map (List.replicate count ' ' ++ ·) := by
  have hparts : ∀ part ∈ first :: later, '\n' ∉ part := by
    rw [← h]
    exact notMem_of_mem_splitNewlines
  obtain ⟨hfirst, hlater⟩ := List.forall_mem_cons.mp hparts
  unfold indentLater
  rw [h]
  apply splitNewlines_joinNewlines (List.cons_ne_nil _ _)
  refine List.forall_mem_cons.mpr ⟨hfirst, ?_⟩
  intro part hpart
  obtain ⟨line, hline, rfl⟩ := List.mem_map.mp hpart
  rw [List.mem_append, not_or]
  refine ⟨fun hspace ↦ ?_, hlater line hline⟩
  cases List.eq_of_mem_replicate hspace

theorem notMem_indentLater {cs : List Char} (h : '\t' ∉ cs) (count : Nat) :
    '\t' ∉ indentLater count cs := by
  obtain ⟨first, later, hsplit⟩ := List.exists_cons_of_ne_nil (splitNewlines_ne_nil cs)
  have hparts : ∀ part ∈ first :: later, '\t' ∉ part := by
    rw [← hsplit]
    exact fun part hpart htab ↦ h (mem_of_mem_splitNewlines part hpart htab)
  obtain ⟨hfirst, hlater⟩ := List.forall_mem_cons.mp hparts
  unfold indentLater
  rw [hsplit]
  dsimp only
  intro htab
  rcases mem_joinNewlines htab with hnewline | ⟨part, hpart, hmem⟩
  · cases hnewline
  rcases List.mem_cons.mp hpart with rfl | hpart
  · exact hfirst hmem
  · obtain ⟨line, hline, rfl⟩ := List.mem_map.mp hpart
    rcases List.mem_append.mp hmem with hspace | hinside
    · cases List.eq_of_mem_replicate hspace
    · exact hlater line hline hinside

theorem marks_indentLater (count : Nat) (cs : List Char) :
    marks (indentLater count cs) = marks cs := by
  obtain ⟨first, later, hsplit⟩ := List.exists_cons_of_ne_nil (splitNewlines_ne_nil cs)
  have hspaces : marks (List.replicate count ' ') = [] := by
    apply marks_of_blank
    intro c hc
    rw [List.eq_of_mem_replicate hc]
    rfl
  have hmoved (line : List Char) : marks (List.replicate count ' ' ++ line) = marks line := by
    rw [marks_append, hspaces, List.nil_append]
  rw [← marks_splitNewlines cs, ← marks_splitNewlines (indentLater count cs),
    splitNewlines_indentLater hsplit, hsplit, List.flatMap_cons, List.flatMap_cons, List.flatMap_map]
  exact congrArg _ (List.flatMap_congr fun line _ ↦ hmoved line)

/-! ## Carriage returns -/

/-- A carriage return ends a line, so the columns of tabs are counted anew as before a newline. -/
theorem expandTabsFrom_withReturns (column : Nat) (cs : List Char) :
    expandTabsFrom column (withReturns cs) = withReturns (expandTabsFrom column cs) := by
  induction cs generalizing column with
  | nil => rfl
  | cons c cs ih =>
    by_cases hnewline : c = '\n'
    · subst hnewline
      rw [withReturns_newline]
      simp [expandTabsFrom, ih, withReturns_newline]
    · rw [withReturns_cons hnewline, expandTabsFrom, expandTabsFrom]
      dsimp only
      split
      · have hspaces (count : Nat) (rest : List Char) :
            withReturns (List.replicate count ' ' ++ rest) =
              List.replicate count ' ' ++ withReturns rest := by
          induction count with
          | zero => rfl
          | succ count ih =>
            rw [List.replicate_succ, List.cons_append, withReturns_cons (by decide), ih]
            rfl
        rw [hspaces, ih]
      · rw [withReturns_cons hnewline, ih]

/-- A part of a text, and the same part with or without a carriage return at its end. -/
inductive Returned (part : List Char) : List Char → Prop where
  | self : Returned part part
  | ended : Returned part (part ++ ['\r'])

theorem Returned.cons {part part' : List Char} (c : Char) (h : Returned part part') :
    Returned (c :: part) (c :: part') := by
  cases h with
  | self => exact .self
  | ended => exact .ended

/-- Line by line, only a carriage return may have come to the end. -/
theorem forall₂_splitNewlines_withReturns (cs : List Char) :
    List.Forall₂ Returned (splitNewlines cs) (splitNewlines (withReturns cs)) := by
  induction cs with
  | nil => exact .cons .self .nil
  | cons c cs ih =>
    by_cases hc : c = '\n'
    · subst hc
      rw [withReturns_newline]
      exact .cons .ended ih
    · rw [withReturns_cons hc, splitNewlines, splitNewlines, if_neg hc, if_neg hc]
      generalize splitNewlines cs = parts, splitNewlines (withReturns cs) = parts' at ih
      cases ih with
      | nil => exact .cons .self .nil
      | cons hpart hparts => exact .cons (hpart.cons c) hparts

/-- A carriage return at the end of a part belongs to the newline behind it. -/
theorem endedLines_append_return {part : List Char} (h : '\r' ∉ part) :
    endedLines (part ++ ['\r']) = endedLines part := by
  unfold endedLines
  induction part with
  | nil => rfl
  | cons c part ih =>
    rw [List.mem_cons, not_or] at h
    have hc : c ≠ '\r' := Ne.symm h.1
    simp only [List.cons_append, splitLines_cons_of_ne hc, ih h.2]

/-- The carriage return at the end of a blank line is trimmed off with it. -/
theorem trimLeft_append_return (part : List Char) :
    trimLeft (part ++ ['\r']) = if (trimLeft part).isEmpty then [] else trimLeft part ++ ['\r'] :=
  List.dropWhile_append

/-- A carriage return does not indent a line. -/
theorem Returned.indentation?_eq {part part' : List Char} (h : Returned part part') :
    indentation? part' = indentation? part := by
  cases h with
  | self => rfl
  | ended =>
    unfold indentation?
    rw [trimLeft_append_return]
    by_cases hempty : (trimLeft part).isEmpty = true
    · rw [if_pos hempty, if_pos hempty]
      rfl
    · have hmarked : (trimLeft part ++ ['\r']).isEmpty = false := by simp
      have hfront : (part ++ ['\r']).takeWhile isBlank = part.takeWhile isBlank := by
        rw [List.takeWhile_append, if_neg]
        intro hlength
        have hparts := congrArg List.length (trimLeft_append_takeWhile part)
        rw [List.length_append, hlength] at hparts
        exact hempty (List.isEmpty_iff.mpr (List.eq_nil_of_length_eq_zero (by omega)))
      rw [if_neg hempty, if_neg hempty, if_neg (by rw [hmarked]; decide), hfront]

theorem margin?_eq_of_returned {parts parts' : List (List Char)}
    (h : List.Forall₂ Returned parts parts') : margin? parts' = margin? parts := by
  unfold margin?
  congr 1
  induction h with
  | nil => rfl
  | cons hpart _ ih => rw [List.filterMap_cons, List.filterMap_cons, hpart.indentation?_eq, ih]

/-- The carriage return and the newline behind it end a line together. -/
theorem Returned.endedLines_trimLeft {part part' : List Char} (h : Returned part part')
    (hreturn : '\r' ∉ part) : endedLines (trimLeft part') = endedLines (trimLeft part) := by
  cases h with
  | self => rfl
  | ended =>
    rw [trimLeft_append_return]
    split
    · rename_i hempty
      rw [List.isEmpty_iff.mp hempty]
    · exact endedLines_append_return fun hmem ↦
        hreturn ((List.dropWhile_sublist isBlank).subset hmem)

/-- Where the margin takes the carriage return of a blank line away, nothing is left of the line. -/
theorem Returned.endedLines_drop {part part' : List Char} (h : Returned part part')
    (hreturn : '\r' ∉ part) (margin : Nat) :
    endedLines (part'.drop margin) = endedLines (part.drop margin) := by
  cases h with
  | self => rfl
  | ended =>
    by_cases hlong : margin ≤ part.length
    · rw [List.drop_append_of_le_length hlong]
      exact endedLines_append_return fun hmem ↦ hreturn (List.mem_of_mem_drop hmem)
    · have hlength : (part ++ ['\r']).length ≤ margin := by
        rw [List.length_append, List.length_singleton]
        omega
      rw [List.drop_of_length_le hlength, List.drop_of_length_le (by omega)]

/-- Behind a margin the lines are the same. -/
theorem flatMap_endedLines_removeMargin {parts parts' : List (List Char)}
    (h : List.Forall₂ Returned parts parts') (hreturn : ∀ part ∈ parts, '\r' ∉ part) :
    (removeMargin parts').flatMap endedLines = (removeMargin parts).flatMap endedLines := by
  cases h with
  | nil => rfl
  | @cons first first' later later' hfirst hlater =>
    obtain ⟨hreturnFirst, hreturnLater⟩ := List.forall_mem_cons.mp hreturn
    dsimp only [removeMargin]
    rw [List.flatMap_cons, List.flatMap_cons, hfirst.endedLines_trimLeft hreturnFirst,
      margin?_eq_of_returned hlater, List.flatMap_map, List.flatMap_map]
    congr 1
    clear hreturn
    generalize (margin? later).getD 0 = margin
    induction hlater with
    | nil => rfl
    | cons hpart _ ih =>
      obtain ⟨hreturnPart, hreturnRest⟩ := List.forall_mem_cons.mp hreturnLater
      rw [List.flatMap_cons, List.flatMap_cons, hpart.endedLines_drop hreturnPart, ih hreturnRest]

end Text

open Text

namespace Docstring

/-! ## Sections -/

/-- A blank line in front of a docstring says nothing. -/
theorem ofLines_cons_blank (name : String) {line : List Char} (hline : ∀ c ∈ line, isBlank c = true)
    (lines : List (List Char)) : ofLines name (line :: lines) = ofLines name lines := by
  have hprose : tagLine? (trim line) = none := by
    rw [trim_eq_nil_iff.mpr hline]
    rfl
  have htext : fragments (line :: (sections lines).1) = fragments (sections lines).1 := by
    unfold fragments
    rw [trim_joinNewlines_cons hline]
  unfold ofLines
  rw [sections_of_prose hprose]
  dsimp only
  rw [htext]

theorem ofLines_blank_append (name : String) {front : List (List Char)} (hfront : AreBlank front)
    (lines : List (List Char)) : ofLines name (front ++ lines) = ofLines name lines := by
  induction front with
  | nil => rfl
  | cons line front ih =>
    obtain ⟨hline, hfront⟩ := List.forall_mem_cons.mp hfront
    rw [List.cons_append, ofLines_cons_blank name hline, ih hfront]

/-- Blank lines at the end are lines of the last section. -/
theorem sections_append_blank {back : List (List Char)} (hback : AreBlank back)
    (lines : List (List Char)) :
    Padded (sections lines).1 (sections (lines ++ back)).1 ∧
      List.Forall₂ (fun tag tag' ↦ tag.1 = tag'.1 ∧ Padded tag.2 tag'.2) (sections lines).2
        (sections (lines ++ back)).2 := by
  induction lines with
  | nil =>
    have hprose : sections back = (back, []) := by
      have hnone : ∀ line ∈ back, tagLine? (trim line) = none := by
        intro line hline
        rw [trim_eq_nil_iff.mpr (hback line hline)]
        rfl
      clear hback
      induction back with
      | nil => rfl
      | cons line back ih =>
        obtain ⟨hline, hrest⟩ := List.forall_mem_cons.mp hnone
        rw [sections_of_prose hline, ih hrest]
    rw [List.nil_append, hprose]
    exact ⟨.mk hback, .nil⟩
  | cons line lines ih =>
    obtain ⟨hprose, htags⟩ := ih
    cases htag : tagLine? (trim line) with
    | none =>
      rw [List.cons_append, sections_of_prose htag, sections_of_prose htag]
      exact ⟨hprose.cons line, htags⟩
    | some tag =>
      have hbody : Padded (tagLines tag.2 (sections lines).1)
          (tagLines tag.2 (sections (lines ++ back)).1) := by
        unfold tagLines
        split
        · exact hprose
        · exact hprose.cons tag.2
      rw [List.cons_append, sections_of_tag htag, sections_of_tag htag]
      exact ⟨padded_self [], .cons ⟨rfl, hbody⟩ htags⟩

theorem ofLines_of_padded (name : String) {lines lines' : List (List Char)}
    (h : Padded lines lines') : ofLines name lines' = ofLines name lines := by
  have htext {lines lines' : List (List Char)} (h : Padded lines lines') :
      fragments lines' = fragments lines := by
    unfold fragments
    rw [h.trim_joinNewlines]
  obtain ⟨hback⟩ := h
  obtain ⟨hprose, htags⟩ := sections_append_blank hback lines
  unfold ofLines
  dsimp only
  rw [htext hprose]
  congr 1
  generalize (sections lines).2 = tags, (sections (lines ++ _)).2 = tags' at htags
  induction htags with
  | nil => rfl
  | cons htag _ ih => rw [List.map_cons, List.map_cons, ih, htag.1, htext htag.2]

/-- A docstring is parsed from the lines of its parts between newlines, without their margin. -/
theorem ofLines_unindent (name : String) (cs : List Char) :
    ofLines name (splitLines (unindent cs)) =
      ofLines name ((removeMargin (splitNewlines (expandTabs cs))).flatMap endedLines) := by
  obtain ⟨front, back, hfront, hback, hends⟩ :=
    exists_dropEmptyEnds (removeMargin (splitNewlines (expandTabs cs)))
  have hblankFront := areBlank_flatMap_endedLines (areBlank_of_empty hfront)
  have hblankBack := areBlank_flatMap_endedLines (areBlank_of_empty hback)
  rw [hends, List.flatMap_append, List.flatMap_append, ofLines_blank_append name hblankFront,
    ofLines_of_padded name (.mk hblankBack),
    ofLines_of_padded name (padded_splitLines_joinNewlines _)]
  rfl

/-- A symbol is determined by the marks of the text and by its lines without margin. -/
theorem parse_congr {text text' : String} (name : String)
    (hmarks : marks text'.toList = marks text.toList)
    (hlines : ofLines name (splitLines (unindent text'.toList)) =
      ofLines name (splitLines (unindent text.toList))) :
    parse text' name = parse text name := by
  by_cases hblank : marks text.toList = []
  · rw [parse_of_blank name hblank, parse_of_blank name (hmarks.trans hblank)]
  · rw [parse_of_marks name hblank, parse_of_marks name (hmarks ▸ hblank), hlines]

/-- Without tabs, more indentation below the first line is taken away as margin. -/
theorem ofLines_unindent_indentLater (name : String) {cs : List Char} (h : '\t' ∉ cs) (count : Nat) :
    ofLines name (splitLines (unindent (indentLater count cs))) =
      ofLines name (splitLines (unindent cs)) := by
  obtain ⟨first, later, hsplit⟩ := List.exists_cons_of_ne_nil (splitNewlines_ne_nil cs)
  rw [ofLines_unindent, ofLines_unindent, expandTabs_of_notMem h,
    expandTabs_of_notMem (notMem_indentLater h count), splitNewlines_indentLater hsplit, hsplit]
  cases hmargin : margin? later with
  | some margin => rw [removeMargin_map_append hmargin]
  | none =>
    -- All later lines are blank, so both texts have the lines of the first one and blank lines.
    have hmoved : margin? (later.map (List.replicate count ' ' ++ ·)) = none := by
      rw [margin?_map_append, hmargin]
      rfl
    have hfirst {later : List (List Char)} (hmargin : margin? later = none) :
        ofLines name ((removeMargin (first :: later)).flatMap endedLines) =
          ofLines name (endedLines (trimLeft first)) := by
      have hblank : AreBlank (later.map (List.drop ((margin? later).getD 0))) := by
        intro line hline c hc
        obtain ⟨whole, hwhole, rfl⟩ := List.mem_map.mp hline
        exact areBlank_of_margin?_eq_none hmargin whole hwhole c (List.mem_of_mem_drop hc)
      dsimp only [removeMargin]
      rw [List.flatMap_cons]
      exact ofLines_of_padded name (.mk (areBlank_flatMap_endedLines hblank))
    rw [hfirst hmoved, hfirst hmargin]

/-- Returns before the newlines do not change the lines. -/
theorem ofLines_unindent_withReturns (name : String) {cs : List Char} (h : '\r' ∉ cs) :
    ofLines name (splitLines (unindent (withReturns cs))) =
      ofLines name (splitLines (unindent cs)) := by
  have htabs : expandTabs (withReturns cs) = withReturns (expandTabs cs) :=
    expandTabsFrom_withReturns 0 cs
  have hreturn : ∀ part ∈ splitNewlines (expandTabs cs), '\r' ∉ part := by
    intro part hpart hmem
    rcases mem_of_mem_expandTabs (mem_of_mem_splitNewlines part hpart hmem) with hspace | hmem
    · cases hspace
    · exact h hmem
  rw [ofLines_unindent, ofLines_unindent, htabs,
    flatMap_endedLines_removeMargin (forall₂_splitNewlines_withReturns _) hreturn]

/-- More indentation in front of the later lines, and carriage returns in front of the newlines,
change nothing of what a docstring describes. -/
theorem parseOption_layout (docstring name : String) :
    ('\t' ∉ docstring.toList → ∀ count,
        parseOption (some (String.ofList (indentLater count docstring.toList))) name =
          parseOption (some docstring) name) ∧
      ('\r' ∉ docstring.toList →
        parseOption (some (String.ofList (withReturns docstring.toList))) name =
          parseOption (some docstring) name) := by
  constructor
  · intro htab count
    rw [parseOption_some, parseOption_some]
    apply parse_congr name
    · rw [String.toList_ofList, marks_indentLater]
    · rw [String.toList_ofList, ofLines_unindent_indentLater name htab]
  · intro hreturn
    rw [parseOption_some, parseOption_some]
    apply parse_congr name
    · rw [String.toList_ofList, marks_withReturns]
    · rw [String.toList_ofList, ofLines_unindent_withReturns name hreturn]

/-- A margin of two spaces is moved, and a line of one space in it has a carriage return or none. -/
theorem parseOption_layout_years :
    parseOption (some "Age.\n    @minimum 0\n   \n      years\n  ") "age" =
        parseOption (some "Age.\n  @minimum 0\n \n    years\n") "age" ∧
      parseOption (some "Age.\r\n  @minimum 0\r\n \r\n    years\r\n") "age" =
        parseOption (some "Age.\n  @minimum 0\n \n    years\n") "age" := by
  obtain ⟨hindent, hreturns⟩ := parseOption_layout "Age.\n  @minimum 0\n \n    years\n" "age"
  exact ⟨hindent (by decide) 2, hreturns (by decide)⟩

end Docstring

end Schematic
