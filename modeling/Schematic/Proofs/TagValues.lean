import Schematic.Proofs.Reading
import Schematic.Proofs.ReadingBack
import Schematic.Tag.Value

/-!
# Values of tags

The value of a tag is the value that its text denotes, if the text is JSON with integers that
are not too long and without halves of surrogate pairs, and otherwise it is the text itself.
The words for numbers that are not finite make a text no JSON wherever they stand outside a
string. What is written for a value is taken as that value.
-/

namespace Schematic

namespace Json.Grammar

/-! ## Surrogate pairs -/

/-- Whether an escape stands for half of a surrogate pair without the other half behind it. -/
def hasLoneSurrogate : List Char → Bool
  | '\x5c' :: 'u' :: p :: q :: r :: s :: rest =>
    match Reader.unit? p q r s with
    | none => hasLoneSurrogate rest
    | some unit =>
      if Reader.isHighSurrogate unit then
        match rest with
        | '\x5c' :: 'u' :: p :: q :: r :: s :: rest =>
          match Reader.unit? p q r s with
          | none => true
          | some low => !Reader.isLowSurrogate low || hasLoneSurrogate rest
        | _ => true
      else Reader.isLowSurrogate unit || hasLoneSurrogate rest
  | '\x5c' :: _ :: rest => hasLoneSurrogate rest
  | _ :: rest => hasLoneSurrogate rest
  | [] => false

theorem hasLoneSurrogate_cons {c : Char} (hc : c ≠ '\x5c') (rest : List Char) :
    hasLoneSurrogate (c :: rest) = hasLoneSurrogate rest := by
  rw [hasLoneSurrogate.eq_def]
  split
  · rename_i heq
    exact absurd (List.cons.inj heq).1 hc
  · rename_i heq
    exact absurd (List.cons.inj heq).1 hc
  · rename_i heq
    rw [(List.cons.inj heq).2]
  · contradiction

theorem hasLoneSurrogate_short {letter : Char} (hletter : letter ≠ 'u') (rest : List Char) :
    hasLoneSurrogate ('\x5c' :: letter :: rest) = hasLoneSurrogate rest := by
  rw [hasLoneSurrogate.eq_def]
  split
  · rename_i heq
    exact absurd (List.cons.inj (List.cons.inj heq).2).1 hletter
  · rename_i heq
    rw [(List.cons.inj (List.cons.inj heq).2).2]
  · rename_i hnone heq
    obtain ⟨rfl, rfl⟩ := List.cons.inj heq
    exact (hnone letter rest rfl rfl).elim
  · contradiction

theorem hasLoneSurrogate_append {text : List Char} (h : ∀ c ∈ text, c ≠ '\x5c')
    (rest : List Char) : hasLoneSurrogate (text ++ rest) = hasLoneSurrogate rest := by
  induction text with
  | nil => rfl
  | cons c cs ih =>
    obtain ⟨hc, hcs⟩ := List.forall_mem_cons.mp h
    rw [List.cons_append, hasLoneSurrogate_cons hc, ih hcs]

theorem exists_unit {p q r s : Char} (hp : IsHexDigit p) (hq : IsHexDigit q) (hr : IsHexDigit r)
    (hs : IsHexDigit s) : ∃ unit, Reader.unit? p q r s = some unit := by
  obtain ⟨p', hp⟩ := Option.isSome_iff_exists.mp hp
  obtain ⟨q', hq⟩ := Option.isSome_iff_exists.mp hq
  obtain ⟨r', hr⟩ := Option.isSome_iff_exists.mp hr
  obtain ⟨s', hs⟩ := Option.isSome_iff_exists.mp hs
  exact ⟨_, by rw [Reader.unit?, hp, hq, hr, hs]; rfl⟩

/-- After the first half of a pair, the second one is an escape, too. -/
theorem SpellsString.exists_low {text rest : List Char} (h : SpellsString text) {p q r s : Char}
    {high : Nat} (hunit : Reader.unit? p q r s = some high)
    (hhigh : Reader.isHighSurrogate high = true)
    (hpairs : hasLoneSurrogate ('\x5c' :: 'u' :: p :: q :: r :: s :: (text ++ '\x22' :: rest)) =
      false) :
    ∃ p' q' r' s' low others, text = '\x5c' :: 'u' :: p' :: q' :: r' :: s' :: others ∧
      SpellsString others ∧ Reader.unit? p' q' r' s' = some low ∧
      Reader.isLowSurrogate low = true ∧ hasLoneSurrogate (others ++ '\x22' :: rest) = false := by
  rw [hasLoneSurrogate.eq_def] at hpairs
  simp only [hunit, hhigh, if_true] at hpairs
  split at hpairs
  · rename_i p' q' r' s' rest' hrest
    cases h with
    | nil => exact absurd (List.cons.inj hrest).1 (by decide)
    | plain _ _ hbackslash _ => exact absurd (List.cons.inj hrest).1 hbackslash
    | @short letter _ hletter _ =>
      obtain rfl := (List.cons.inj (List.cons.inj hrest).2).1
      exact absurd hletter (by decide)
    | @unit _ _ _ _ others _ _ _ _ hothers =>
      simp only [List.cons_append, List.cons.injEq, true_and] at hrest
      obtain ⟨rfl, rfl, rfl, rfl, rfl⟩ := hrest
      split at hpairs
      · cases hpairs
      · rename_i low hlow
        rw [Bool.or_eq_false_iff, Bool.not_eq_false'] at hpairs
        exact ⟨_, _, _, _, low, others, rfl, hothers, hlow, hpairs.1, hpairs.2⟩
  · cases hpairs

/-- A string without halves of surrogate pairs denotes its characters. -/
theorem exists_denotesString {text rest : List Char} (h : SpellsString text)
    (hpairs : hasLoneSurrogate (text ++ '\x22' :: rest) = false) :
    (∃ content, DenotesString text content) ∧ hasLoneSurrogate rest = false := by
  -- An escape may take the next one with it, so the induction is on the length.
  induction hn : text.length using Nat.strongRecOn generalizing text with
  | ind n ih =>
    cases h with
    | nil =>
      rw [List.nil_append, hasLoneSurrogate_cons (by decide)] at hpairs
      exact ⟨⟨[], .nil⟩, hpairs⟩
    | @plain c text hcontrol hquote hbackslash h =>
      rw [List.cons_append, hasLoneSurrogate_cons hbackslash] at hpairs
      rw [List.length_cons] at hn
      obtain ⟨⟨content, hcontent⟩, hrest⟩ := ih _ (by omega) h hpairs rfl
      exact ⟨⟨_, .plain hcontrol hquote hbackslash hcontent⟩, hrest⟩
    | @short letter text hletter h =>
      have hletters : ∀ letter ∈ escapeLetters, letter ≠ 'u' ∧
          ∃ entry ∈ escapes, entry.1 = letter := List.forall_iff_forall_mem.mp (by decide)
      obtain ⟨hne, ⟨_, c⟩, hescape, rfl⟩ := hletters letter hletter
      rw [List.cons_append, List.cons_append, hasLoneSurrogate_short hne] at hpairs
      rw [List.length_cons, List.length_cons] at hn
      obtain ⟨⟨content, hcontent⟩, hrest⟩ := ih _ (by omega) h hpairs rfl
      exact ⟨⟨_, .short hescape hcontent⟩, hrest⟩
    | @unit p q r s text hp hq hr hs h =>
      obtain ⟨unit, hunit⟩ := exists_unit hp hq hr hs
      simp only [List.length_cons] at hn
      simp only [List.cons_append] at hpairs
      by_cases hhigh : Reader.isHighSurrogate unit = true
      · obtain ⟨p', q', r', s', low, others, rfl, hothers, hunit', hlow, hpairs⟩ :=
          h.exists_low hunit hhigh hpairs
        simp only [List.length_cons] at hn
        obtain ⟨⟨content, hcontent⟩, hrest⟩ := ih _ (by omega) hothers hpairs rfl
        have hcode := Reader.toNat_joinSurrogates hhigh hlow
        exact ⟨⟨_, .pair hunit hunit' hhigh hlow hcode hcontent⟩, hrest⟩
      · rw [hasLoneSurrogate.eq_def] at hpairs
        simp only [hunit, hhigh, Bool.false_eq_true, if_false, Bool.or_eq_false_iff] at hpairs
        obtain ⟨⟨content, hcontent⟩, hrest⟩ := ih _ (by omega) h hpairs.2 rfl
        have hcode := Reader.toNat_ofNat_unit (Reader.unit?_lt hunit) hhigh
          (Bool.eq_false_iff.mp hpairs.1)
        exact ⟨⟨_, .unit (hunit.trans (congrArg some hcode.symm)) hcontent⟩, hrest⟩

/-! ## Texts of the grammar -/

theorem IsSpace.ne_backslash {space : List Char} (h : IsSpace space) : ∀ c ∈ space, c ≠ '\x5c' := by
  intro c hc
  have hspace := h c hc
  rintro rfl
  exact absurd hspace (by decide)

theorem hasLoneSurrogate_opening (container : Container) (rest : List Char) :
    hasLoneSurrogate (container.opening :: rest) = hasLoneSurrogate rest := by
  cases container <;> exact hasLoneSurrogate_cons (by decide) rest

theorem hasLoneSurrogate_closing (container : Container) (rest : List Char) :
    hasLoneSurrogate (container.closing :: rest) = hasLoneSurrogate rest := by
  cases container <;> exact hasLoneSurrogate_cons (by decide) rest

/-- What the grammar spells denotes something, if its integers are not too long and no half of a
surrogate pair stands alone. -/
theorem exists_denotes {part : Part} {text rest : List Char} {numerals : List Numeral}
    (h : Spells part text numerals) (hall : ∀ numeral ∈ numerals, numeral.IsConvertible)
    (hpairs : hasLoneSurrogate (text ++ rest) = false) :
    (∃ meaning, Denotes part text meaning) ∧ hasLoneSurrogate rest = false := by
  induction h generalizing rest with
  | @word word hword =>
    have hwords : ∀ word ∈ words, (∀ c ∈ word, c ≠ '\x5c') ∧
        ∃ entry ∈ wordValues, entry.1 = word := by simp [words, wordValues]
    obtain ⟨hplain, ⟨_, value⟩, hvalue, rfl⟩ := hwords word hword
    rw [hasLoneSurrogate_append hplain] at hpairs
    exact ⟨⟨value, .word hvalue⟩, hpairs⟩
  | @numeral numeral text h =>
    have hplain : ∀ c ∈ text, c ≠ '\x5c' := by
      refine forall_of_spellsNumeral (fun c hdigit ↦ ?_)
        (List.forall_iff_forall_mem.mp (by decide)) h
      rintro rfl
      exact absurd hdigit (by decide)
    obtain ⟨value, hvalue⟩ := (hall numeral List.mem_cons_self).exists_denotes
    rw [hasLoneSurrogate_append hplain] at hpairs
    exact ⟨⟨value, .numeral h hvalue⟩, hpairs⟩
  | @string text h =>
    rw [List.cons_append, hasLoneSurrogate_cons (by decide), List.append_assoc,
      List.singleton_append] at hpairs
    obtain ⟨⟨content, hcontent⟩, hrest⟩ := exists_denotesString h hpairs
    exact ⟨⟨_, .string hcontent⟩, hrest⟩
  | @empty container space hspace =>
    rw [List.cons_append, hasLoneSurrogate_opening, List.append_assoc,
      hasLoneSurrogate_append hspace.ne_backslash, List.singleton_append,
      hasLoneSurrogate_closing] at hpairs
    exact ⟨⟨_, .empty hspace⟩, hpairs⟩
  | @full container space text numerals hspace _ ih =>
    rw [List.cons_append, hasLoneSurrogate_opening, List.append_assoc,
      hasLoneSurrogate_append hspace.ne_backslash, List.append_assoc] at hpairs
    obtain ⟨⟨entries, hentries⟩, hrest⟩ := ih hall hpairs
    rw [List.singleton_append, hasLoneSurrogate_closing] at hrest
    exact ⟨⟨_, .full hspace hentries⟩, hrest⟩
  | item _ hspace ih =>
    rw [List.append_assoc] at hpairs
    obtain ⟨⟨value, hvalue⟩, hrest⟩ := ih hall hpairs
    rw [hasLoneSurrogate_append hspace.ne_backslash] at hrest
    exact ⟨⟨_, .item hvalue hspace⟩, hrest⟩
  | @field key space space' text space'' numerals hkey hspace hspace' _ hspace'' ih =>
    simp only [List.cons_append, List.append_assoc] at hpairs
    rw [hasLoneSurrogate_cons (by decide)] at hpairs
    obtain ⟨⟨content, hcontent⟩, hcolon⟩ := exists_denotesString hkey hpairs
    rw [hasLoneSurrogate_append hspace.ne_backslash, hasLoneSurrogate_cons (by decide),
      hasLoneSurrogate_append hspace'.ne_backslash] at hcolon
    obtain ⟨⟨value, hvalue⟩, hrest⟩ := ih hall hcolon
    rw [hasLoneSurrogate_append hspace''.ne_backslash] at hrest
    exact ⟨⟨_, .field hcontent hspace hspace' hvalue hspace''⟩, hrest⟩
  | last _ ih =>
    obtain ⟨⟨entry, hentry⟩, hrest⟩ := ih hall hpairs
    exact ⟨⟨_, .last hentry⟩, hrest⟩
  | next _ hspace _ ih ihrest =>
    obtain ⟨hfirst, hothers⟩ := List.forall_mem_append.mp hall
    rw [List.append_assoc, List.cons_append, List.append_assoc] at hpairs
    obtain ⟨⟨entry, hentry⟩, hcomma⟩ := ih hfirst hpairs
    rw [hasLoneSurrogate_cons (by decide), hasLoneSurrogate_append hspace.ne_backslash] at hcomma
    obtain ⟨⟨others, hread⟩, hrest⟩ := ihrest hothers hcomma
    exact ⟨⟨_, .next hentry hspace hread⟩, hrest⟩

/-- A JSON text whose integers are not too long. -/
def IsStrict (text : List Char) : Prop :=
  ∃ numerals, IsText text numerals ∧ ∀ numeral ∈ numerals, numeral.IsConvertible

theorem DenotesText.isStrict {text : List Char} {value : Json} (h : DenotesText text value) :
    IsStrict text := by
  obtain ⟨numerals, htext, hall, -⟩ := h.isText
  exact ⟨numerals, htext, hall⟩

/-- A strict text without lone surrogates denotes a value. -/
theorem IsStrict.exists_denotes {text : List Char} (h : IsStrict text)
    (hpairs : hasLoneSurrogate text = false) : ∃ value, DenotesText text value := by
  obtain ⟨numerals, @⟨space, text, space', numerals, hspace, hspells, hspace'⟩, hall⟩ := h
  rw [hasLoneSurrogate_append hspace.ne_backslash] at hpairs
  obtain ⟨⟨value, hvalue⟩, -⟩ := Grammar.exists_denotes hspells hall hpairs
  exact ⟨value, .mk hspace hvalue hspace'⟩

end Json.Grammar

namespace Tag

open Json Grammar

/-- A text that denotes a value is taken as that value. -/
theorem value_of_denotes {text : String} {v : Json} (h : DenotesText text.toList v) :
    value text = v := by
  rw [value, read?_of_denotesText h]
  rfl

/-- A text that is no JSON, or has an integer that is too long, is taken as it stands. -/
theorem value_of_not_isStrict {text : String} (h : ¬ IsStrict text.toList) :
    value text = .str text := by
  cases hread : read? text.toList with
  | some read => exact absurd (denotesText_of_read? hread).isStrict h
  | none =>
    rw [value, hread]
    rfl

theorem denotes_iff {text : String} (h : IsStrict text.toList)
    (hpairs : hasLoneSurrogate text.toList = false) (v : Json) :
    DenotesText text.toList v ↔ value text = v := by
  constructor
  · exact value_of_denotes
  · rintro rfl
    obtain ⟨v, hv⟩ := h.exists_denotes hpairs
    rw [value_of_denotes hv]
    exact hv

/-- The value of a tag is what its text denotes as strict JSON, and otherwise the text. -/
theorem value_strict :
    (∀ text : String, hasLoneSurrogate text.toList = false → IsStrict text.toList →
      ∀ v, DenotesText text.toList v ↔ value text = v) ∧
    (∀ text : String, ¬ IsStrict text.toList → value text = .str text) ∧
    (∀ text : String, ∀ word ∈ notFiniteWords, word.toList <:+: outside false text.toList →
      value text = .str text) ∧
    ∀ v : Json, Faithful v → value (String.ofList (write .inline 0 v)) = v := by
  refine ⟨fun _ hpairs h ↦ denotes_iff h hpairs, fun _ ↦ value_of_not_isStrict, ?_, ?_⟩
  · intro text word hword hfound
    refine value_of_not_isStrict fun ⟨_, htext, _⟩ ↦ ?_
    exact not_infix_of_isText htext word hword hfound
  · intro v hv
    have hread := read?_write hv .inline isSpace_nil
    rw [List.append_nil] at hread
    rw [value, String.toList_ofList, hread]
    rfl

/-- A blank stands before an integer, a word for an infinite number stands in an array, and a letter
beyond ASCII is written as an escape. -/
theorem value_strict_seven :
    value " 7" = .int 7 ∧ value "[-Infinity]" = .str "[-Infinity]" ∧
      value (String.ofList (write .inline 0 (.str "é"))) = .str "é" := by
  obtain ⟨hdenoted, -, hwords, hwritten⟩ := value_strict
  have hwhole : IsWhole ['7'] := ⟨⟨List.cons_ne_nil _ _, List.forall_mem_singleton.mpr rfl⟩, by decide⟩
  have hspace : IsSpace [' '] := List.forall_mem_singleton.mpr rfl
  have hnumeral : SpellsNumeral ⟨false, ['7'], none, none⟩ ['7'] :=
    @SpellsNumeral.mk ⟨false, ['7'], none, none⟩ [] [] hwhole .none .none
  have hconvertible : Numeral.IsConvertible ⟨false, ['7'], none, none⟩ := fun _ ↦ by decide
  have htext : IsText " 7".toList [⟨false, ['7'], none, none⟩] :=
    @IsText.mk [' '] ['7'] [] _ hspace (.numeral hnumeral) isSpace_nil
  have hvalue : Numeral.Denotes ⟨false, ['7'], none, none⟩ (.int 7) :=
    .whole (fun h ↦ h ⟨rfl, rfl⟩) (by decide)
  have hdenotes : DenotesText " 7".toList (.int 7) :=
    @DenotesText.mk [' '] ['7'] [] _ hspace (.numeral hnumeral hvalue) isSpace_nil
  have hfaithful : Faithful (.str "é") :=
    ⟨isFinite_str _, hereditary_hasDistinctKeys.str _, rfl⟩
  refine ⟨?_, ?_, hwritten _ hfaithful⟩
  · exact (hdenoted " 7" (by decide) ⟨_, htext, List.forall_mem_singleton.mpr hconvertible⟩ _).mp
      hdenotes
  · exact hwords "[-Infinity]" "-Infinity" (by decide) ⟨['['], [']'], by decide⟩

end Tag

end Schematic
