import Schematic.Json.Writer
import Schematic.Proofs.Denotation

/-!
# Texts that are written

What is written for a finite value is a JSON text, whatever the spacing. The one place where
the writer may leave the grammar is a double that is not finite, for which it writes a word.
-/

namespace Schematic

open Json.Grammar

namespace Json

/-! ## Strings -/

theorem denotesString_append {text text' content content' : List Char}
    (h : DenotesString text content) (h' : DenotesString text' content') :
    DenotesString (text ++ text') (content ++ content') := by
  induction h with
  | nil => exact h'
  | plain hcontrol hquote hbackslash _ ih => exact .plain hcontrol hquote hbackslash ih
  | short hletter _ ih => exact .short hletter ih
  | unit hunit _ ih => exact .unit hunit ih
  | pair hunit hunit' hhigh hlow hcode _ ih => exact .pair hunit hunit' hhigh hlow hcode ih

namespace Reader

theorem hexValue?_digitChar {n : Nat} (hn : n < 16) : hexValue? (Nat.digitChar n) = some n := by
  have hall : ∀ n < 16, hexValue? (Nat.digitChar n) = some n := by decide
  exact hall n hn

/-- The four digits of a unit are read as its number. -/
theorem unit?_digits {n : Nat} (hn : n < 0x10000) :
    unit? (n / 4096 % 16).digitChar (n / 256 % 16).digitChar (n / 16 % 16).digitChar
      (n % 16).digitChar = some n := by
  have hdigit (n : Nat) : hexValue? (n % 16).digitChar = some (n % 16) :=
    hexValue?_digitChar (Nat.mod_lt n (by decide))
  have hsum : 4096 * (n / 4096 % 16) + 256 * (n / 256 % 16) + 16 * (n / 16 % 16) + n % 16 = n := by
    omega
  unfold unit?
  simp only [hdigit, Option.bind_eq_bind, Option.bind_some, hsum]
  rfl

end Reader

theorem mem_escapes_of_shortEscape? {c letter : Char} (h : shortEscape? c = some letter) :
    (letter, c) ∈ escapes := by
  unfold shortEscape? at h
  split_ifs at h
  all_goals
    subst c
    obtain rfl := Option.some.inj h
    decide

/-- A character beyond the first plane is written as a surrogate pair. -/
theorem denotesString_unicodeEscape (c : Char) : DenotesString (unicodeEscape c) [c] := by
  have hvalid : c.toNat < 0xd800 ∨ 0xdfff < c.toNat ∧ c.toNat < 0x110000 := c.valid
  unfold unicodeEscape
  dsimp only
  split
  · rename_i hunit
    exact .unit (Reader.unit?_digits hunit) .nil
  · rename_i hlarge
    refine .pair (Reader.unit?_digits (by omega)) (Reader.unit?_digits (by omega)) ?_ ?_ ?_ .nil
    · simp only [Reader.isHighSurrogate, Bool.and_eq_true, decide_eq_true_eq]
      omega
    · simp only [Reader.isLowSurrogate, Bool.and_eq_true, decide_eq_true_eq]
      omega
    · omega

theorem denotesString_escape (c : Char) : DenotesString (escape c) [c] := by
  unfold escape
  split
  · rename_i letter hletter
    exact .short (mem_escapes_of_shortEscape? hletter) .nil
  · rename_i hlong
    split
    · rename_i hprintable
      refine .plain hprintable.1 ?_ ?_ .nil
      · rintro rfl
        exact absurd hlong (by decide)
      · rintro rfl
        exact absurd hlong (by decide)
    · exact denotesString_unicodeEscape c

/-- What is written between the quotes of a string denotes its characters. -/
theorem denotesString_flatMap_escape (cs : List Char) : DenotesString (cs.flatMap escape) cs := by
  induction cs with
  | nil => exact .nil
  | cons c cs ih => exact denotesString_append (denotesString_escape c) ih

theorem spellsString_flatMap_escape (cs : List Char) : SpellsString (cs.flatMap escape) :=
  (denotesString_flatMap_escape cs).spells

/-! ## Containers -/

theorem isSpace_nil : IsSpace [] :=
  fun _ hc ↦ absurd hc List.not_mem_nil

theorem isSpace_replicate (count : Nat) : IsSpace (List.replicate count ' ') := by
  intro c hc
  rw [List.eq_of_mem_replicate hc]
  rfl

theorem isSpace_lineBreak (spacing : Spacing) (depth : Nat) :
    IsSpace (spacing.lineBreak depth) := by
  cases spacing with
  | inline => exact isSpace_nil
  | indented width => exact List.forall_mem_cons.mpr ⟨rfl, isSpace_replicate _⟩

/-- Entries are separated by a comma and blanks. -/
theorem exists_separator (spacing : Spacing) (depth : Nat) :
    ∃ space, IsSpace space ∧ spacing.separator depth = ',' :: space := by
  cases spacing with
  | inline => exact ⟨_, isSpace_replicate 1, rfl⟩
  | indented width => exact ⟨_, isSpace_lineBreak (.indented width) depth, rfl⟩

/-- The blanks behind the last entry may be more. -/
theorem spells_append_space {part : Part} {text space : List Char} {numerals : List Numeral}
    (hpart : part ≠ .value) (hspace : IsSpace space) (h : Spells part text numerals) :
    Spells part (text ++ space) numerals := by
  have hmore {space' : List Char} (hspace' : IsSpace space') : IsSpace (space' ++ space) :=
    List.forall_mem_append.mpr ⟨hspace', hspace⟩
  induction h with
  | word | numeral | string | empty | full => exact absurd rfl hpart
  | item h hspace' =>
    rw [List.append_assoc]
    exact .item h (hmore hspace')
  | field hkey hspace₁ hspace₂ h hspace₃ =>
    have hfield := Spells.field hkey hspace₁ hspace₂ h (hmore hspace₃)
    simpa using hfield
  | last _ ih => exact .last (ih nofun)
  | next hentry hspace' _ _ ih =>
    have hnext := Spells.next hentry hspace' (ih nofun)
    simpa using hnext

/-- Separated entries spell the entries of a container. -/
theorem spells_intercalate {container : Container} (spacing : Spacing) (depth : Nat)
    {items : List (List Char)} (hitems : items ≠ [])
    (h : ∀ item ∈ items, ∃ numerals, Spells (.entry container) item numerals) :
    ∃ numerals, Spells (.entries container) ((spacing.separator depth).intercalate items)
      numerals := by
  induction items with
  | nil => exact absurd rfl hitems
  | cons item items ih =>
    obtain ⟨⟨numerals, hitem⟩, hrest⟩ := List.forall_mem_cons.mp h
    cases items with
    | nil =>
      rw [List.intercalate_singleton]
      exact ⟨numerals, .last hitem⟩
    | cons next others =>
      obtain ⟨space, hspace, hseparator⟩ := exists_separator spacing depth
      obtain ⟨numerals', hentries⟩ := ih (List.cons_ne_nil _ _) hrest
      refine ⟨numerals ++ numerals', ?_⟩
      have hnext := Spells.next hitem hspace hentries
      rw [List.intercalate_cons_cons]
      simpa [hseparator] using hnext

theorem spells_enclose (container : Container) {spacing : Spacing} {depth : Nat}
    {items : List (List Char)}
    (h : ∀ item ∈ items, ∃ numerals, Spells (.entry container) item numerals) :
    ∃ numerals, Spells .value
      (spacing.enclose depth container.opening container.closing items) numerals := by
  unfold Spacing.enclose
  split
  · exact ⟨[], .empty isSpace_nil⟩
  · rename_i hnonempty
    have hitems : items ≠ [] := fun hnil ↦ hnonempty (List.isEmpty_iff.mpr hnil)
    obtain ⟨numerals, hentries⟩ := spells_intercalate spacing (depth + 1) hitems h
    have hfull := Spells.full (isSpace_lineBreak spacing (depth + 1))
      (spells_append_space nofun (isSpace_lineBreak spacing depth) hentries)
    refine ⟨numerals, ?_⟩
    simpa using hfull

/-! ## Values -/

theorem spells_item {text : List Char} {numerals : List Numeral} (h : Spells .value text numerals) :
    Spells (.entry .array) text numerals := by
  have hitem := Spells.item h isSpace_nil
  rwa [List.append_nil] at hitem

/-- A key and a value make a field. -/
theorem spells_field (key : List Char) {text : List Char} {numerals : List Numeral}
    (h : Spells .value text numerals) :
    Spells (.entry .object) (quoted key ++ ':' :: ' ' :: text) numerals := by
  have hfield := Spells.field (spellsString_flatMap_escape key) isSpace_nil (isSpace_replicate 1) h
    isSpace_nil
  simpa [quoted] using hfield

mutual

/-- A finite value is written as a value of the grammar. -/
theorem spells_write (spacing : Spacing) (depth : Nat) : ∀ {value : Json}, value.IsFinite →
    ∃ numerals, Spells .value (write spacing depth value) numerals
  | .null, _ => ⟨[], .word (.head _)⟩
  | .bool true, _ => ⟨[], .word (.tail _ (.head _))⟩
  | .bool false, _ => ⟨[], .word (.tail _ (.tail _ (.head _)))⟩
  | .int n, _ => by
    obtain ⟨numeral, hnumeral, -⟩ := spells_integerText n
    exact ⟨[numeral], .numeral hnumeral⟩
  | .float x, h => by
    rw [isFinite_float_iff] at h
    cases x with
    | nan => cases h
    | infinite negative => cases h
    | finite x =>
      obtain ⟨numeral, hnumeral, -⟩ := Double.Layout.document.spells_text x
      exact ⟨[numeral], .numeral hnumeral⟩
  | .str s, _ => ⟨[], .string (spellsString_flatMap_escape s.toList)⟩
  | .arr _, h =>
    spells_enclose .array (spells_writeItems spacing (depth + 1) (isFinite_arr_iff.mp h))
  | .obj _, h =>
    spells_enclose .object (spells_writeFields spacing (depth + 1) (isFinite_obj_iff.mp h))

theorem spells_writeItems (spacing : Spacing) (depth : Nat) :
    ∀ {items : List Json}, (∀ item ∈ items, item.IsFinite) →
      ∀ text ∈ writeItems spacing depth items, ∃ numerals, Spells (.entry .array) text numerals
  | [], _ => fun _ htext ↦ absurd htext List.not_mem_nil
  | item :: items, h => by
    obtain ⟨hitem, hitems⟩ := List.forall_mem_cons.mp h
    obtain ⟨numerals, hspells⟩ := spells_write spacing depth hitem
    exact List.forall_mem_cons.mpr
      ⟨⟨numerals, spells_item hspells⟩, spells_writeItems spacing depth hitems⟩

theorem spells_writeFields (spacing : Spacing) (depth : Nat) :
    ∀ {fields : List (String × Json)}, (∀ field ∈ fields, field.2.IsFinite) →
      ∀ text ∈ writeFields spacing depth fields, ∃ numerals, Spells (.entry .object) text numerals
  | [], _ => fun _ htext ↦ absurd htext List.not_mem_nil
  | (key, value) :: fields, h => by
    obtain ⟨hvalue, hfields⟩ := List.forall_mem_cons.mp h
    obtain ⟨numerals, hspells⟩ := spells_write spacing depth hvalue
    exact List.forall_mem_cons.mpr
      ⟨⟨numerals, spells_field key.toList hspells⟩, spells_writeFields spacing depth hfields⟩

end

end Json

end Schematic
