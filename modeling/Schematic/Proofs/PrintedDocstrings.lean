import Mathlib.Data.List.Basic
import Mathlib.Data.List.Infix
import Mathlib.Data.List.TakeWhile
import Schematic.Proofs.KeptText
import Schematic.Proofs.Lines

/-!
# Printed docstrings

A symbol is printed as an empty line, the free text and the tags, each tag with its text below
it. Where the first line of the text would open a tag of its own, it stands on the tag line.
The lines of a symbol that was read hold neither tabs nor boundaries, they begin at the left
edge and do not end in an empty line, and only the first line of a tag's text may look like a
tag line. Reading a printed symbol therefore finds the same lines in the same sections.
-/

namespace Schematic

open Text

namespace Docstring

/-! ## Printing -/

/-- The lines of a text in fragments; an empty text has none. -/
def linesOf (text : List String) : List (List Char) :=
  let cs := (String.join text).toList
  if cs.isEmpty then [] else splitNewlines cs

/-- A tag line and the lines of the text. A first line that would open a tag stands behind the name. -/
def printTag (tag : Tag) : List (List Char) :=
  let opening := '@' :: tag.name.toList
  match linesOf tag.text with
  | [] => [opening]
  | first :: rest =>
    if (tagLine? (trim first)).isSome then (opening ++ ' ' :: first) :: rest
    else opening :: first :: rest

/-- The lines of a symbol that is printed, the empty line in front of them apart. -/
def printLines (symbol : Symbol) : List (List Char) :=
  linesOf symbol.documentation ++ symbol.tags.flatMap printTag

/-- A docstring for a symbol. -/
def print (symbol : Symbol) : String :=
  String.ofList (joinNewlines ([] :: printLines symbol))

/-! ## Lines of a text -/

def IsPlain (line : List Char) : Prop :=
  ∀ c ∈ line, isLineBoundary c = false ∧ c ≠ '\t'

theorem IsPlain.notMem {line : List Char} (h : IsPlain line) : '\n' ∉ line := by
  intro hnewline
  cases (h _ hnewline).1

theorem isPlain_of_not_blank {line : List Char} (h : ∀ c ∈ line, isBlank c = false) :
    IsPlain line := by
  intro c hc
  constructor
  · by_contra hboundary
    rw [Bool.not_eq_false] at hboundary
    cases (isBlank_of_isLineBoundary hboundary).symm.trans (h c hc)
  · rintro rfl
    cases h _ hc

/-- The lines that a docstring is read from are plain. -/
theorem isPlain_of_unindent (cs : List Char) : ∀ line ∈ splitLines (unindent cs), IsPlain line := by
  intro line hline c hc
  obtain ⟨hmem, hboundary⟩ := plain_of_mem_splitLines line hline c hc
  refine ⟨hboundary, ?_⟩
  rintro rfl
  exact notMem_unindent cs hmem

/-- The text of several lines, without blanks at its ends. -/
def blockText (lines : List (List Char)) : List Char :=
  trim (joinNewlines lines)

theorem fragments_of_nil {lines : List (List Char)} (h : blockText lines = []) :
    fragments lines = [] :=
  if_pos (List.isEmpty_iff.mpr h)

theorem fragments_of_ne_nil {lines : List (List Char)} (h : blockText lines ≠ []) :
    fragments lines = [String.ofList (blockText lines)] :=
  if_neg (mt List.isEmpty_iff.mp h)

/-- The lines of the text of several lines, as they are printed. -/
def blockLines (lines : List (List Char)) : List (List Char) :=
  linesOf (fragments lines)

theorem blockLines_of_nil {lines : List (List Char)} (h : blockText lines = []) :
    blockLines lines = [] := by
  rw [blockLines, fragments_of_nil h]
  rfl

theorem blockLines_of_ne_nil {lines : List (List Char)} (h : blockText lines ≠ []) :
    blockLines lines = splitNewlines (blockText lines) := by
  have hjoin : (String.join [String.ofList (blockText lines)]).toList = blockText lines := by
    simp [String.join]
  rw [blockLines, fragments_of_ne_nil h, linesOf, hjoin]
  exact if_neg (mt List.isEmpty_iff.mp h)

/-- Reading the printed lines of a text gives the text again. -/
theorem fragments_blockLines (lines : List (List Char)) :
    fragments (blockLines lines) = fragments lines := by
  have htext : blockText (blockLines lines) = blockText lines := by
    by_cases hnil : blockText lines = []
    · rw [blockLines_of_nil hnil, hnil]
      rfl
    · rw [blockLines_of_ne_nil hnil]
      unfold blockText
      rw [joinNewlines_splitNewlines]
      exact trim_of_trimmed (trimmed_trim _)
  unfold blockText at htext
  rw [fragments, fragments, htext]

/-- The printed lines are none, or those of a text without blanks at its ends. -/
theorem blockLines_cases {P : List (List Char) → Prop} (lines : List (List Char)) (hnil : P [])
    (htext : blockText lines ≠ [] → Trimmed (blockText lines) →
      P (splitNewlines (blockText lines))) : P (blockLines lines) := by
  by_cases hempty : blockText lines = []
  · rwa [blockLines_of_nil hempty]
  · rw [blockLines_of_ne_nil hempty]
    exact htext hempty (trimmed_trim _)

/-- Printed lines are plain if the lines of the text are. -/
theorem isPlain_blockLines {lines : List (List Char)} (h : ∀ line ∈ lines, IsPlain line) :
    ∀ line ∈ blockLines lines, IsPlain line := by
  apply blockLines_cases (P := fun kept ↦ ∀ line ∈ kept, IsPlain line) lines
  · exact List.forall_mem_nil _
  · intro _ _ line hline c hc
    have hnewline : '\n' ∉ line := notMem_of_mem_splitNewlines line hline
    have hmem : c ∈ blockText lines := mem_of_mem_splitNewlines line hline hc
    rcases mem_joinNewlines (mem_of_mem_trim hmem) with rfl | ⟨other, hother, hc⟩
    · exact absurd hc hnewline
    · exact h other hother c hc

/-- The printed lines are, but for blanks at their ends, a segment of the lines. -/
theorem trim_blockLines {lines : List (List Char)} (h : ∀ line ∈ lines, IsPlain line) :
    (blockLines lines).map trim <:+: lines.map trim := by
  apply blockLines_cases (P := fun kept ↦ kept.map trim <:+: lines.map trim) lines
  · exact List.nil_infix
  · intro hne _
    have hlines : lines ≠ [] := by
      rintro rfl
      exact hne rfl
    have hsegment : lineTexts (blockText lines) <:+: lineTexts (joinNewlines lines) :=
      lineTexts_trim _
    rwa [lineTexts_joinNewlines hlines fun line hline ↦ (h line hline).notMem] at hsegment

/-! ## Lines of prose and of tags -/

structure IsProse (lines : List (List Char)) : Prop where
  plain : ∀ line ∈ lines, IsPlain line
  untagged : ∀ line ∈ lines, tagLine? (trim line) = none

/-- Plain lines of which only the first may look like a tag line. It does so if it stands behind the
name of its tag, where it has no blanks at its ends. -/
structure IsTagBody (lines : List (List Char)) : Prop where
  plain : ∀ line ∈ lines, IsPlain line
  first : ∀ line ∈ lines.head?, tagLine? (trim line) = none ∨ trim line = line
  later : ∀ line ∈ lines.tail, tagLine? (trim line) = none

theorem IsProse.isTagBody {lines : List (List Char)} (h : IsProse lines) : IsTagBody lines where
  plain := h.plain
  first line hline := .inl (h.untagged line (List.mem_of_mem_head? hline))
  later line hline := h.untagged line (List.mem_of_mem_tail hline)

/-- Printing does not make a tag line out of a line. -/
theorem IsProse.blockLines {lines : List (List Char)} (h : IsProse lines) :
    IsProse (blockLines lines) where
  plain := isPlain_blockLines h.plain
  untagged line hline := by
    have hmem : trim line ∈ lines.map trim :=
      (trim_blockLines h.plain).subset (List.mem_map_of_mem hline)
    obtain ⟨other, hother, hsame⟩ := List.mem_map.mp hmem
    rw [← hsame]
    exact h.untagged other hother

theorem IsTagBody.blockLines {lines : List (List Char)} (h : IsTagBody lines) :
    IsTagBody (blockLines lines) where
  plain := isPlain_blockLines h.plain
  first := by
    cases lines with
    | nil =>
      intro line hline
      cases hline
    | cons first rest =>
      by_cases hnone : tagLine? (trim first) = none
      · have hprose : IsProse (first :: rest) :=
          ⟨h.plain, List.forall_mem_cons.mpr ⟨hnone, h.later⟩⟩
        exact hprose.blockLines.isTagBody.first
      · have hends : trim first = first := (h.first first rfl).resolve_left hnone
        have hne : first ≠ [] := by
          rintro rfl
          exact hnone rfl
        have htrimmed : Trimmed first := hends ▸ trimmed_trim first
        have hhead : (splitNewlines (blockText (first :: rest))).head? = some first :=
          head_splitNewlines_trim htrimmed hne (h.plain first List.mem_cons_self).notMem rest
        apply blockLines_cases (P := fun kept ↦ ∀ line ∈ kept.head?,
          tagLine? (trim line) = none ∨ trim line = line) (first :: rest)
        · exact fun _ hline ↦ (Option.not_mem_none _ hline).elim
        · intro _ _ line hline
          rw [hhead] at hline
          cases hline
          exact .inr hends
  later := by
    intro line hline
    have hmem : trim line ∈ (lines.map trim).tail := by
      apply mem_tail_of_segment (trim_blockLines h.plain)
      rw [← List.map_tail]
      exact List.mem_map_of_mem hline
    rw [← List.map_tail] at hmem
    obtain ⟨other, hother, hsame⟩ := List.mem_map.mp hmem
    rw [← hsame]
    exact h.later other hother

/-- The text on a tag line is plain and has no blanks at its ends. -/
theorem text_of_tagLine? {line : List Char} (hline : IsPlain line) {tag : List Char × List Char}
    (h : tagLine? (trim line) = some tag) : IsPlain tag.2 ∧ trim tag.2 = tag.2 := by
  obtain ⟨-, hhead, blanks, -, hparts⟩ := tagLine?_sound h
  have hsuffix : tag.2 <:+ trim line := by
    rw [hparts, ← List.append_assoc]
    exact (List.suffix_append _ _).trans (List.suffix_cons _ _)
  constructor
  · intro c hc
    exact hline c (mem_of_mem_trim (hsuffix.subset hc))
  · apply trim_of_trimmed
    refine ⟨hhead, ?_⟩
    intro c hc
    apply (trimmed_trim line).last
    obtain ⟨front, hfront⟩ := hsuffix
    rw [← hfront, List.getLast?_append, hc]
    rfl

/-- The prose in front of the first tag, and the lines of each tag. -/
theorem isProse_sections {lines : List (List Char)} (h : ∀ line ∈ lines, IsPlain line) :
    IsProse (sections lines).1 ∧ ∀ tag ∈ (sections lines).2, IsTagBody tag.2 := by
  induction lines with
  | nil => exact ⟨⟨List.forall_mem_nil _, List.forall_mem_nil _⟩, List.forall_mem_nil _⟩
  | cons line rest ih =>
    obtain ⟨hline, hrest⟩ := List.forall_mem_cons.mp h
    obtain ⟨hprose, htags⟩ := ih hrest
    cases htag : tagLine? (trim line) with
    | none =>
      rw [sections_of_prose htag]
      refine ⟨⟨?_, ?_⟩, htags⟩
      · exact List.forall_mem_cons.mpr ⟨hline, hprose.plain⟩
      · exact List.forall_mem_cons.mpr ⟨htag, hprose.untagged⟩
    | some tag =>
      rw [sections_of_tag htag]
      have hbody : IsTagBody (tagLines tag.2 (sections rest).1) := by
        unfold tagLines
        split
        · exact hprose.isTagBody
        · obtain ⟨hplain, hends⟩ := text_of_tagLine? hline htag
          refine ⟨?_, ?_, hprose.untagged⟩
          · exact List.forall_mem_cons.mpr ⟨hplain, hprose.plain⟩
          · intro first hfirst
            cases hfirst
            exact .inr hends
      exact ⟨⟨List.forall_mem_nil _, List.forall_mem_nil _⟩, List.forall_mem_cons.mpr ⟨hbody, htags⟩⟩

/-! ## Lines at the edge -/

/-- Plain lines that a margin leaves alone: the first begins with no blank, the last is not empty. -/
structure AtEdge (lines : List (List Char)) : Prop where
  plain : ∀ line ∈ lines, IsPlain line
  first : ∀ line ∈ lines.head?, ∃ c ∈ line.head?, isBlank c = false
  last : [] ∉ lines.getLast?

theorem atEdge_nil : AtEdge [] where
  plain := List.forall_mem_nil _
  first _ hline := (Option.not_mem_none _ hline).elim
  last := Option.not_mem_none _

theorem atEdge_cons {c : Char} {cs : List Char} {lines : List (List Char)} (hc : isBlank c = false)
    (hplain : ∀ line ∈ (c :: cs) :: lines, IsPlain line) (hlast : [] ∉ lines.getLast?) :
    AtEdge ((c :: cs) :: lines) where
  plain := hplain
  first := by
    intro line hline
    cases hline
    exact ⟨c, rfl, hc⟩
  last := by
    cases lines with
    | nil => rintro ⟨⟩
    | cons next lines => exact hlast

theorem AtEdge.append {front back : List (List Char)} (hfront : AtEdge front) (hback : AtEdge back) :
    AtEdge (front ++ back) where
  plain := List.forall_mem_append.mpr ⟨hfront.plain, hback.plain⟩
  first := by
    cases front with
    | nil => exact hback.first
    | cons => exact hfront.first
  last := by
    by_cases hnil : back = []
    · rw [hnil, List.append_nil]
      exact hfront.last
    · rw [List.getLast?_append_of_ne_nil _ hnil]
      exact hback.last

theorem atEdge_flatMap {α : Type} {lines : α → List (List Char)} {parts : List α}
    (h : ∀ part ∈ parts, AtEdge (lines part)) : AtEdge (parts.flatMap lines) := by
  induction parts with
  | nil => exact atEdge_nil
  | cons part parts ih =>
    obtain ⟨hpart, hparts⟩ := List.forall_mem_cons.mp h
    exact hpart.append (ih hparts)

/-- A printed text has nothing at its ends that a margin takes away. -/
theorem atEdge_blockLines {lines : List (List Char)} (h : ∀ line ∈ lines, IsPlain line) :
    AtEdge (blockLines lines) := by
  have hplain := isPlain_blockLines h
  apply blockLines_cases (P := fun kept ↦ (∀ line ∈ kept, IsPlain line) → AtEdge kept) lines _ _
    hplain
  · exact fun _ ↦ atEdge_nil
  · intro hne htrimmed hplain
    exact ⟨hplain, head_splitNewlines htrimmed hne, last_splitNewlines htrimmed hne⟩

/-- What reading grants of a tag. -/
structure IsReadTag (tag : Tag) : Prop where
  name : IsTagName tag.name.toList
  body : IsTagBody (linesOf tag.text)
  edge : AtEdge (linesOf tag.text)

theorem isReadTag_of_mem_tags (name : String) {lines : List (List Char)}
    (h : ∀ line ∈ lines, IsPlain line) : ∀ tag ∈ (ofLines name lines).tags, IsReadTag tag := by
  intro tag htag
  obtain ⟨section', hsection, rfl⟩ := List.mem_map.mp htag
  have hbody : IsTagBody section'.2 := (isProse_sections h).2 section' hsection
  refine ⟨?_, hbody.blockLines, atEdge_blockLines hbody.plain⟩
  rw [String.toList_ofList]
  exact isTagName_of_sections lines section' hsection

theorem IsReadTag.atEdge {tag : Tag} (h : IsReadTag tag) : AtEdge (printTag tag) := by
  have hsign : isBlank '@' = false := rfl
  have hopening : IsPlain ('@' :: tag.name.toList) :=
    isPlain_of_not_blank (List.forall_mem_cons.mpr ⟨hsign, h.name.isBlank⟩)
  have hline : AtEdge ['@' :: tag.name.toList] :=
    atEdge_cons hsign (List.forall_mem_singleton.mpr hopening) (Option.not_mem_none _)
  have htext := h.edge
  unfold printTag
  cases hlines : linesOf tag.text with
  | nil => exact hline
  | cons first below =>
    rw [hlines] at htext
    dsimp only
    split
    · obtain ⟨hfirst, hbelow⟩ := List.forall_mem_cons.mp htext.plain
      have hbehind : IsPlain (' ' :: first) :=
        List.forall_mem_cons.mpr ⟨⟨rfl, by decide⟩, hfirst⟩
      have hjoined : IsPlain ('@' :: tag.name.toList ++ ' ' :: first) :=
        List.forall_mem_append.mpr ⟨hopening, hbehind⟩
      have hlast : [] ∉ below.getLast? := by
        cases below with
        | nil => exact Option.not_mem_none _
        | cons next below => exact htext.last
      exact atEdge_cons hsign (List.forall_mem_cons.mpr ⟨hjoined, hbelow⟩) hlast
    · exact hline.append htext

theorem atEdge_printLines (name : String) {lines : List (List Char)}
    (h : ∀ line ∈ lines, IsPlain line) : AtEdge (printLines (ofLines name lines)) := by
  have hprose : AtEdge (blockLines (sections lines).1) :=
    atEdge_blockLines (isProse_sections h).1.plain
  apply hprose.append
  apply atEdge_flatMap
  intro tag htag
  exact (isReadTag_of_mem_tags name h tag htag).atEdge

/-! ## Reading printed lines -/

/-- Lines that open no tag are the text in front. -/
theorem sections_append {lines : List (List Char)} (h : ∀ line ∈ lines, tagLine? (trim line) = none)
    (rest : List (List Char)) :
    sections (lines ++ rest) = (lines ++ (sections rest).1, (sections rest).2) := by
  induction lines with
  | nil => rfl
  | cons line lines ih =>
    obtain ⟨hline, hlines⟩ := List.forall_mem_cons.mp h
    rw [List.cons_append, sections_of_prose hline, ih hlines]
    rfl

/-- A tag without a text is read back. -/
theorem tagLine?_name {name : List Char} (h : IsTagName name) :
    tagLine? (trim ('@' :: name)) = some (name, []) := by
  have htrimmed : Trimmed ('@' :: name) :=
    trimmed_of_not_blank (List.forall_mem_cons.mpr ⟨rfl, h.isBlank⟩)
  rw [trim_of_trimmed htrimmed]
  obtain ⟨hstart, hrest⟩ := h
  rw [tagLine?, if_pos hstart, List.takeWhile_eq_self_iff.mpr hrest, List.dropWhile_eq_nil_iff.mpr hrest]

theorem tagLine?_text {name text : List Char} (h : IsTagName name) (htext : Trimmed text)
    (hne : text ≠ []) : tagLine? (trim ('@' :: name ++ ' ' :: text)) = some (name, text) := by
  have htrimmed : Trimmed ('@' :: name ++ ' ' :: text) := by
    constructor
    · intro c hc
      cases hc
      rfl
    · intro c hc
      apply htext.last
      rwa [List.getLast?_append_of_ne_nil _ (List.cons_ne_nil _ _),
        List.getLast?_cons_of_ne_nil hne] at hc
  rw [trim_of_trimmed htrimmed]
  obtain @⟨c, rest, hstart, hrest⟩ := h
  have hspace : isTagChar ' ' = false := by
    by_contra hchar
    rw [Bool.not_eq_false] at hchar
    cases isBlank_of_isTagChar hchar
  have hname : (rest ++ ' ' :: text).takeWhile isTagChar = rest := by
    rw [List.takeWhile_append_of_pos hrest, List.takeWhile_cons_of_neg (Bool.eq_false_iff.mp hspace),
      List.append_nil]
  have hbehind : (rest ++ ' ' :: text).dropWhile isTagChar = ' ' :: text := by
    rw [List.dropWhile_append_of_pos hrest, List.dropWhile_cons_of_neg (Bool.eq_false_iff.mp hspace)]
  have hblank : isBlank ' ' = true := rfl
  rw [List.cons_append, List.cons_append, tagLine?, if_pos hstart, hname, hbehind]
  dsimp only
  rw [if_pos hblank, trimLeft_of_head htext.head]

/-- A printed tag is read as a tag with the same name and lines. -/
theorem sections_printTag {tag : Tag} (h : IsReadTag tag) {rest : List (List Char)}
    (hrest : (sections rest).1 = []) :
    sections (printTag tag ++ rest) =
      ([], (tag.name.toList, linesOf tag.text) :: (sections rest).2) := by
  have hbody := h.body
  unfold printTag
  cases hlines : linesOf tag.text with
  | nil =>
    dsimp only
    rw [List.singleton_append, sections_of_tag (tagLine?_name h.name), hrest]
    rfl
  | cons first below =>
    rw [hlines] at hbody
    have hlater : ∀ line ∈ below, tagLine? (trim line) = none := hbody.later
    dsimp only
    split
    · rename_i htagged
      have hends : trim first = first := by
        apply (hbody.first first rfl).resolve_left
        exact Option.isSome_iff_ne_none.mp htagged
      have hne : first ≠ [] := by
        rintro rfl
        cases htagged
      have htrimmed : Trimmed first := hends ▸ trimmed_trim first
      rw [List.cons_append, sections_of_tag (tagLine?_text h.name htrimmed hne),
        sections_append hlater, hrest, List.append_nil, tagLines, List.isEmpty_eq_false_iff.mpr hne]
      rfl
    · rename_i htagged
      have hall : ∀ line ∈ first :: below, tagLine? (trim line) = none :=
        List.forall_mem_cons.mpr ⟨Option.not_isSome_iff_eq_none.mp htagged, hlater⟩
      rw [List.cons_append, sections_of_tag (tagLine?_name h.name), sections_append hall, hrest,
        List.append_nil]
      rfl

/-- Printed tags are read as tags with the same names and lines, and no prose in front. -/
theorem sections_flatMap_printTag {tags : List Tag} (h : ∀ tag ∈ tags, IsReadTag tag) :
    sections (tags.flatMap printTag) =
      ([], tags.map fun tag ↦ (tag.name.toList, linesOf tag.text)) := by
  induction tags with
  | nil => rfl
  | cons tag tags ih =>
    obtain ⟨htag, htags⟩ := List.forall_mem_cons.mp h
    have hrest := ih htags
    rw [List.flatMap_cons, sections_printTag htag (congrArg Prod.fst hrest), hrest]
    rfl

/-- The sections of a printed symbol are those of the lines, without blanks around each text. -/
theorem sections_printLines (name : String) {lines : List (List Char)}
    (h : ∀ line ∈ lines, IsPlain line) :
    sections (printLines (ofLines name lines)) =
      (blockLines (sections lines).1, (sections lines).2.map fun tag ↦ (tag.1, blockLines tag.2)) := by
  have hprose : IsProse (blockLines (sections lines).1) := (isProse_sections h).1.blockLines
  have hlines : printLines (ofLines name lines) =
      blockLines (sections lines).1 ++ (ofLines name lines).tags.flatMap printTag := rfl
  have htags := sections_flatMap_printTag (isReadTag_of_mem_tags name h)
  have hread : (ofLines name lines).tags.map (fun tag ↦ (tag.name.toList, linesOf tag.text)) =
      (sections lines).2.map fun tag ↦ (tag.1, blockLines tag.2) := by
    simp [ofLines, blockLines]
  rw [hlines, sections_append hprose.untagged, htags, List.append_nil, hread]

/-- Reading the printed lines of a symbol gives the symbol again. -/
theorem ofLines_printLines (name : String) {lines : List (List Char)}
    (h : ∀ line ∈ lines, IsPlain line) :
    ofLines name (printLines (ofLines name lines)) = ofLines name lines := by
  rw [ofLines, sections_printLines name h]
  simp [ofLines, fragments_blockLines]

/-- The lines of a printed symbol are found again in its docstring. -/
theorem splitLines_print (name : String) {lines : List (List Char)}
    (h : ∀ line ∈ lines, IsPlain line) (hne : printLines (ofLines name lines) ≠ []) :
    splitLines (unindent (print (ofLines name lines)).toList) = printLines (ofLines name lines) := by
  have hedge := atEdge_printLines name h
  rw [print, String.toList_ofList]
  generalize printLines (ofLines name lines) = printed at hne hedge
  obtain ⟨first, rest, rfl⟩ := List.exists_cons_of_ne_nil hne
  obtain ⟨c, hc, hblank⟩ := hedge.first first rfl
  obtain ⟨cs, rfl⟩ := List.head?_eq_some_iff.mp hc
  have hplain : ∀ line ∈ (c :: cs) :: rest, '\n' ∉ line ∧ '\t' ∉ line := by
    intro line hline
    have hline := hedge.plain line hline
    exact ⟨hline.notMem, fun htab ↦ (hline _ htab).2 rfl⟩
  rw [unindent_joinNewlines hblank hedge.last hplain]
  apply splitLines_joinNewlines hedge.last
  intro line hline d hd
  exact (hedge.plain line hline d hd).1

/-- The symbol of plain lines is read from its print. -/
theorem parse_print (name : String) {lines : List (List Char)} (h : ∀ line ∈ lines, IsPlain line)
    (hmarked : lines.flatMap marks ≠ []) :
    parse (print (ofLines name lines)) name = some (ofLines name lines) := by
  have hsymbol := ofLines_printLines name h
  have hprinted : (printLines (ofLines name lines)).flatMap marks ≠ [] := by
    rwa [← marks_ofLines name, hsymbol, marks_ofLines]
  have hne : printLines (ofLines name lines) ≠ [] := by
    intro hnil
    rw [hnil] at hprinted
    exact hprinted rfl
  have hlines := splitLines_print name h hne
  have hread : marks (print (ofLines name lines)).toList ≠ [] := by
    rw [← marks_unindent, ← marks_splitLines, hlines]
    exact hprinted
  rw [parse_of_marks name hread, hlines, hsymbol]

/-- The symbol of a docstring is also that of the docstring that is printed for it. -/
theorem parseOption_print (docstring : Option String) (name : String) (symbol : Symbol)
    (h : parseOption docstring name = some symbol) :
    parseOption (some (print symbol)) name = some symbol := by
  cases docstring with
  | none => cases h
  | some text =>
    rw [parseOption_some] at h ⊢
    have hmarked : marks text.toList ≠ [] := by
      intro hblank
      rw [parse_of_blank name hblank] at h
      cases h
    rw [parse_of_marks name hmarked] at h
    rw [← marks_unindent, ← marks_splitLines] at hmarked
    have hprint := parse_print name (isPlain_of_unindent text.toList) hmarked
    rw [Option.some.inj h] at hprint
    exact hprint

/-- A text that begins with a tag line of its own stays behind the name. -/
theorem parseOption_print_between :
    parseOption (some "Age.\n\t@between @least 0\n\t  and\u2028  ten ") "age" =
        some ⟨"age", ["Age."], [⟨"between", ["@least 0\n  and\n  ten"]⟩]⟩ ∧
      parseOption (some "\nAge.\n@between @least 0\n  and\n  ten") "age" =
        some ⟨"age", ["Age."], [⟨"between", ["@least 0\n  and\n  ten"]⟩]⟩ := by
  have hread : parseOption (some "Age.\n\t@between @least 0\n\t  and\u2028  ten ") "age" =
      some ⟨"age", ["Age."], [⟨"between", ["@least 0\n  and\n  ten"]⟩]⟩ := by
    decide +kernel
  have hprint : print ⟨"age", ["Age."], [⟨"between", ["@least 0\n  and\n  ten"]⟩]⟩ =
      "\nAge.\n@between @least 0\n  and\n  ten" := by
    decide +kernel
  rw [← hprint]
  exact ⟨hread, parseOption_print _ _ _ hread⟩

end Docstring

end Schematic
