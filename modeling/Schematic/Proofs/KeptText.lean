import Mathlib.Data.List.Basic
import Mathlib.Data.List.TakeWhile
import Schematic.Proofs.Lines
import Schematic.Proofs.TagLines

/-!
# Text that is kept

The characters of a text that are not blank are its marks. A docstring passes through the
expansion of tabs, the removal of a margin and of empty lines, two ways of splitting into
lines, the recognition of tag lines and several trims; each of them drops blanks only, and
each line goes to one place. So the marks of a docstring are those of its symbol, in order.
-/

namespace Schematic.Text

/-- The characters that are not blank, in order. -/
def marks (cs : List Char) : List Char :=
  cs.filter fun c ↦ !isBlank c

/-- The marks of two texts follow each other. -/
theorem marks_append (cs cs' : List Char) : marks (cs ++ cs') = marks cs ++ marks cs' :=
  List.filter_append ..

theorem marks_of_blank {cs : List Char} (h : ∀ c ∈ cs, isBlank c = true) : marks cs = [] := by
  apply List.filter_eq_nil_iff.mpr
  intro c hc
  simp [h c hc]

theorem marks_of_not_blank {cs : List Char} (h : ∀ c ∈ cs, isBlank c = false) : marks cs = cs := by
  apply List.filter_eq_self.mpr
  intro c hc
  simp [h c hc]

theorem marks_cons_of_blank {c : Char} (hc : isBlank c = true) (cs : List Char) :
    marks (c :: cs) = marks cs := by
  simp [marks, hc]

theorem marks_eq_nil_iff {cs : List Char} : marks cs = [] ↔ ∀ c ∈ cs, isBlank c = true := by
  simp [marks]

/-! ## Trims -/

theorem marks_trimLeft (cs : List Char) : marks (trimLeft cs) = marks cs := by
  have hfront : marks (cs.takeWhile isBlank) = [] :=
    marks_of_blank fun _ hc ↦ List.mem_takeWhile_imp hc
  calc
    marks (trimLeft cs) = marks (cs.takeWhile isBlank) ++ marks (trimLeft cs) := by
      rw [hfront, List.nil_append]
    _ = marks cs := by rw [← marks_append, trimLeft_append_takeWhile]

theorem marks_reverse (cs : List Char) : marks cs.reverse = (marks cs).reverse :=
  List.filter_reverse ..

theorem marks_trimRight (cs : List Char) : marks (trimRight cs) = marks cs := by
  have hback : marks (cs.reverse.dropWhile isBlank) = marks cs.reverse := marks_trimLeft cs.reverse
  rw [trimRight, marks_reverse, hback, marks_reverse, List.reverse_reverse]

theorem marks_trim (cs : List Char) : marks (trim cs) = marks cs := by
  rw [trim, marks_trimRight, marks_trimLeft]

theorem trim_eq_nil_iff {cs : List Char} : trim cs = [] ↔ ∀ c ∈ cs, isBlank c = true := by
  rw [trim, trimRight, List.reverse_eq_nil_iff, List.dropWhile_eq_nil_iff]
  constructor
  · intro h
    have hmarks : marks (trimLeft cs) = [] :=
      marks_of_blank fun c hc ↦ h c (List.mem_reverse.mpr hc)
    rw [marks_trimLeft] at hmarks
    exact marks_eq_nil_iff.mp hmarks
  · intro h c hc
    exact h c ((List.dropWhile_sublist isBlank).subset (List.mem_reverse.mp hc))

/-! ## Lines -/

theorem marks_expandTabsFrom (column : Nat) (cs : List Char) :
    marks (expandTabsFrom column cs) = marks cs := by
  induction cs generalizing column with
  | nil => rfl
  | cons c cs ih =>
    unfold expandTabsFrom
    split
    · rename_i htab
      have hspaces : marks (List.replicate (tabWidth - column % tabWidth) ' ') = [] := by
        apply marks_of_blank
        intro d hd
        rw [List.eq_of_mem_replicate hd]
        rfl
      rw [marks_append, hspaces, List.nil_append, ih, htab]
      rfl
    · simp only [marks, List.filter_cons] at ih ⊢
      rw [ih]

theorem marks_expandTabs (cs : List Char) : marks (expandTabs cs) = marks cs :=
  marks_expandTabsFrom 0 cs

theorem marks_consToFirst (c : Char) (lines : List (List Char)) :
    (consToFirst c lines).flatMap marks = marks [c] ++ lines.flatMap marks := by
  cases lines with
  | nil => simp [consToFirst]
  | cons line lines =>
    rw [consToFirst, List.flatMap_cons, List.flatMap_cons, ← List.append_assoc, ← marks_append]
    rfl

theorem marks_splitNewlines (cs : List Char) : (splitNewlines cs).flatMap marks = marks cs := by
  induction cs with
  | nil => rfl
  | cons c cs ih =>
    unfold splitNewlines
    split
    · rename_i hnewline
      rw [List.flatMap_cons, ih, hnewline]
      rfl
    · rw [marks_consToFirst, ih, ← marks_append]
      rfl

theorem marks_joinNewlines (lines : List (List Char)) :
    marks (joinNewlines lines) = lines.flatMap marks := by
  induction lines with
  | nil => rfl
  | cons line lines ih =>
    cases lines with
    | nil => rw [joinNewlines_singleton, List.flatMap_singleton]
    | cons next lines =>
      have hnewline : isBlank '\n' = true := rfl
      rw [joinNewlines_cons_cons, marks_append, marks_cons_of_blank hnewline, ih]
      rfl

theorem marks_splitLines (cs : List Char) : (splitLines cs).flatMap marks = marks cs := by
  fun_induction splitLines cs with
  | case1 => rfl
  | case2 rest ih =>
    rw [List.flatMap_cons, ih]
    rfl
  | case3 c rest _ hboundary ih =>
    rw [List.flatMap_cons, ih, marks_cons_of_blank (isBlank_of_isLineBoundary hboundary)]
    rfl
  | case4 c rest _ _ ih =>
    rw [marks_consToFirst, ih, ← marks_append]
    rfl

/-! ## Margins -/

/-- Within the indentation of a line, only blanks are cut. -/
theorem marks_drop {line : List Char} {count : Nat}
    (h : ∀ indentation, indentation? line = some indentation → count ≤ indentation) :
    marks (line.drop count) = marks line := by
  have hcut : marks (line.take count) = [] := by
    apply marks_of_blank
    intro c hc
    by_cases hblank : (trimLeft line).isEmpty
    · exact List.dropWhile_eq_nil_iff.mp (List.isEmpty_iff.mp hblank) c (List.mem_of_mem_take hc)
    · have hle : count ≤ (line.takeWhile isBlank).length := h _ (if_neg hblank)
      have hfront : line.take count <+: line.takeWhile isBlank :=
        List.prefix_of_prefix_length_le (List.take_prefix _ _) (List.takeWhile_prefix _)
          ((List.length_take_le _ _).trans hle)
      exact List.mem_takeWhile_imp (hfront.subset hc)
  calc
    marks (line.drop count) = marks (line.take count) ++ marks (line.drop count) := by
      rw [hcut, List.nil_append]
    _ = marks line := by rw [← marks_append, List.take_append_drop]

theorem marks_removeMargin (lines : List (List Char)) :
    (removeMargin lines).flatMap marks = lines.flatMap marks := by
  cases lines with
  | nil => rfl
  | cons first later =>
    have hcut : ∀ line ∈ later, marks (line.drop ((margin? later).getD 0)) = marks line := by
      intro line hline
      exact marks_drop fun indentation h ↦ margin_le hline h
    rw [removeMargin, List.flatMap_cons, List.flatMap_cons, marks_trimLeft, List.flatMap_map,
      List.flatMap_congr hcut]

theorem marks_of_empty {lines : List (List Char)} (h : ∀ line ∈ lines, line = []) :
    lines.flatMap marks = [] := by
  apply List.flatMap_eq_nil_iff.mpr
  intro line hline
  rw [h line hline]
  rfl

theorem marks_dropEmptyEnds (lines : List (List Char)) :
    (dropEmptyEnds lines).flatMap marks = lines.flatMap marks := by
  obtain ⟨front, back, hfront, hback, hlines⟩ := exists_dropEmptyEnds lines
  calc
    (dropEmptyEnds lines).flatMap marks =
        front.flatMap marks ++ ((dropEmptyEnds lines).flatMap marks ++ back.flatMap marks) := by
      rw [marks_of_empty hfront, marks_of_empty hback, List.append_nil, List.nil_append]
    _ = lines.flatMap marks := by rw [← List.flatMap_append, ← List.flatMap_append, ← hlines]

theorem marks_unindent (cs : List Char) : marks (unindent cs) = marks cs := by
  rw [unindent, marks_joinNewlines, marks_dropEmptyEnds, marks_removeMargin, marks_splitNewlines,
    marks_expandTabs]

end Schematic.Text

namespace Schematic

open Text

namespace Docstring

/-! ## Sections -/

/-- The marks of a tag line are those of the tag. -/
theorem marks_of_tagLine? {line name text : List Char} (h : tagLine? (trim line) = some (name, text)) :
    marks line = '@' :: (name ++ marks text) := by
  obtain ⟨hname, -, blanks, hblanks, hline⟩ := tagLine?_sound h
  have hsign : marks ['@'] = ['@'] := rfl
  calc
    marks line = marks (['@'] ++ (name ++ (blanks ++ text))) := by rw [← marks_trim, hline]; rfl
    _ = ['@'] ++ (name ++ ([] ++ marks text)) := by
      rw [marks_append, marks_append, marks_append, hsign, marks_of_blank hblanks,
        marks_of_not_blank hname.isBlank]
    _ = '@' :: (name ++ marks text) := rfl

/-- The marks of a tag with its lines. -/
def tagMarks (tag : List Char × List (List Char)) : List Char :=
  '@' :: (tag.1 ++ tag.2.flatMap marks)

/-- Every line goes to the prose or to one tag, in order. -/
theorem marks_sections (lines : List (List Char)) :
    (sections lines).1.flatMap marks ++ (sections lines).2.flatMap tagMarks =
      lines.flatMap marks := by
  induction lines with
  | nil => rfl
  | cons line rest ih =>
    rw [List.flatMap_cons, ← ih]
    cases htag : tagLine? (trim line) with
    | none =>
      rw [sections_of_prose htag, List.flatMap_cons, List.append_assoc]
    | some tag =>
      have htext : (tagLines tag.2 (sections rest).1).flatMap marks =
          marks tag.2 ++ (sections rest).1.flatMap marks := by
        unfold tagLines
        split
        · rename_i hempty
          rw [List.isEmpty_iff.mp hempty]
          rfl
        · rw [List.flatMap_cons]
      rw [sections_of_tag htag, marks_of_tagLine? htag, List.flatMap_nil, List.nil_append,
        List.flatMap_cons, tagMarks, htext]
      simp

/-- Free text keeps the marks of its lines. -/
theorem marks_fragments (lines : List (List Char)) :
    marks (String.join (fragments lines)).toList = lines.flatMap marks := by
  unfold fragments
  dsimp only
  rw [← marks_joinNewlines, ← marks_trim (joinNewlines lines)]
  split
  · rename_i hempty
    rw [List.isEmpty_iff.mp hempty]
    rfl
  · simp [String.join]

end Docstring

/-- The characters of a symbol as they are read: the free text, and for each tag the sign, the name
and the text. -/
def Symbol.characters (symbol : Symbol) : List Char :=
  (String.join symbol.documentation).toList ++
    symbol.tags.flatMap fun tag ↦ '@' :: (tag.name.toList ++ (String.join tag.text).toList)

namespace Docstring

/-- Every mark of the lines is in the symbol, in order. -/
theorem marks_ofLines (name : String) (lines : List (List Char)) :
    marks (ofLines name lines).characters = lines.flatMap marks := by
  have htags : marks ((ofLines name lines).tags.flatMap fun tag ↦
      '@' :: (tag.name.toList ++ (String.join tag.text).toList)) =
        (sections lines).2.flatMap tagMarks := by
    have hnames : ∀ tag ∈ (sections lines).2, IsTagName tag.1 := isTagName_of_sections lines
    unfold ofLines
    dsimp only
    generalize (sections lines).2 = tags at hnames ⊢
    induction tags with
    | nil => rfl
    | cons tag tags ih =>
      obtain ⟨hname, hrest⟩ := List.forall_mem_cons.mp hnames
      have hsign : marks ['@'] = ['@'] := rfl
      rw [List.map_cons, List.flatMap_cons, List.flatMap_cons, marks_append, ih hrest]
      dsimp only
      rw [← List.singleton_append, marks_append, marks_append, marks_fragments, String.toList_ofList,
        marks_of_not_blank hname.isBlank, hsign]
      rfl
  rw [← marks_sections, Symbol.characters, marks_append, htags]
  exact congrArg (· ++ _) (marks_fragments _)

theorem parseOption_some (docstring name : String) :
    parseOption (some docstring) name = parse docstring name :=
  Option.bind_some ..

theorem parse_of_blank {text : String} (name : String) (h : marks text.toList = []) :
    parse text name = none := by
  apply if_pos
  rwa [List.isEmpty_iff, trim_eq_nil_iff, ← marks_eq_nil_iff]

theorem parse_of_marks {text : String} (name : String) (h : marks text.toList ≠ []) :
    parse text name = some (ofLines name (splitLines (unindent text.toList))) := by
  apply if_neg
  rwa [List.isEmpty_iff, trim_eq_nil_iff, ← marks_eq_nil_iff]

/-- A docstring describes no symbol exactly if it is missing or blank, and the characters of any other
one that are not blank are those of its symbol, in the order in which the symbol is read. -/
theorem parseOption_keepsText (docstring : Option String) (name : String) :
    (parseOption docstring name = none ↔
        ∀ text, docstring = some text → ∀ c ∈ text.toList, isBlank c = true) ∧
      ∀ text, docstring = some text → (∃ c ∈ text.toList, isBlank c = false) →
        ∃ symbol, parseOption docstring name = some symbol ∧
          marks symbol.characters = marks text.toList := by
  have hparsed {text : String} (h : marks text.toList ≠ []) :
      ∃ symbol, parseOption (some text) name = some symbol ∧
        marks symbol.characters = marks text.toList := by
    refine ⟨_, parse_of_marks name h, ?_⟩
    rw [marks_ofLines, marks_splitLines, marks_unindent]
  constructor
  · constructor
    · rintro h text rfl
      rw [← marks_eq_nil_iff]
      by_contra hmarks
      obtain ⟨symbol, hsymbol, -⟩ := hparsed hmarks
      cases h.symm.trans hsymbol
    · intro h
      cases docstring with
      | none => rfl
      | some text => exact parse_of_blank name (marks_eq_nil_iff.mpr (h text rfl))
  · rintro text rfl ⟨c, hc, hmark⟩
    apply hparsed
    rw [Ne, marks_eq_nil_iff]
    intro hall
    cases (hall c hc).symm.trans hmark

theorem parseOption_keepsText_minimum : ∃ symbol,
    parseOption (some "Age.\n\t@minimum 0\u2028 years") "age" = some symbol ∧
      marks symbol.characters = "Age.@minimum0years".toList := by
  have hmarks : marks "Age.\n\t@minimum 0\u2028 years".toList = "Age.@minimum0years".toList := by
    decide
  rw [← hmarks]
  exact (parseOption_keepsText (some _) "age").2 _ rfl ⟨'A', by simp, rfl⟩

end Docstring

end Schematic
