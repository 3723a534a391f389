import Schematic.Proofs.Acceptance
import Schematic.Proofs.Writing

/-!
# Reading back what is written

The reader undoes the writer. What is written for a value denotes that value, with its numbers,
its strings and the order of its keys, and a text is read as the value that it denotes. The
value has to be one that JSON can express, so its numbers are finite, its integers are not too
long, and no object has a key twice.
-/

namespace Schematic.Json

open Grammar

/-! ## Faithful values -/

theorem isWritable_of_mem_items {items : List Json} (h : areWritable items = true) :
    ∀ item ∈ items, item.isWritable = true := by
  induction items with
  | nil => exact fun _ hitem ↦ absurd hitem List.not_mem_nil
  | cons item rest ih =>
    obtain ⟨hitem, hrest⟩ := (Bool.and_eq_true _ _).mp h
    exact List.forall_mem_cons.mpr ⟨hitem, ih hrest⟩

theorem isWritable_of_mem_fields {fields : Dict Json} (h : areFieldsWritable fields = true) :
    ∀ field ∈ fields, field.2.isWritable = true := by
  induction fields with
  | nil => exact fun _ hfield ↦ absurd hfield List.not_mem_nil
  | cons field rest ih =>
    obtain ⟨hfield, hrest⟩ := (Bool.and_eq_true _ _).mp h
    exact List.forall_mem_cons.mpr ⟨hfield, ih hrest⟩

/-- A value that JSON can express and that is not too long to be written. -/
structure Faithful (value : Json) : Prop where
  finite : value.IsFinite
  distinct : value.HasDistinctKeys
  writable : value.isWritable = true

theorem Faithful.items {items : List Json} (h : Faithful (.arr items)) :
    ∀ item ∈ items, Faithful item := by
  intro item hitem
  have hwritable := isWritable_of_mem_items (by simpa [isWritable] using h.writable)
  exact ⟨isFinite_arr_iff.mp h.finite item hitem, hasDistinctKeys_arr_iff.mp h.distinct item hitem,
    hwritable item hitem⟩

theorem Faithful.fields {fields : Dict Json} (h : Faithful (.obj fields)) :
    ∀ field ∈ fields, Faithful field.2 := by
  intro field hfield
  have hwritable := isWritable_of_mem_fields (by simpa [isWritable] using h.writable)
  exact ⟨isFinite_obj_iff.mp h.finite field hfield,
    (hasDistinctKeys_obj_iff.mp h.distinct).2 field hfield, hwritable field hfield⟩

/-! ## Containers -/

def fieldText (key : String) (text : List Char) : List Char :=
  quoted key.toList ++ ':' :: ' ' :: text

/-- An array is written by its items, one level deeper. -/
theorem write_arr (spacing : Spacing) (depth : Nat) (items : List Json) :
    write spacing depth (.arr items) =
      spacing.enclose depth '[' ']' (items.map (write spacing (depth + 1))) := by
  have hitems : writeItems spacing (depth + 1) items = items.map (write spacing (depth + 1)) := by
    induction items with
    | nil => rfl
    | cons item rest ih =>
      rw [List.map_cons, ← ih]
      rfl
  rw [← hitems]
  rfl

theorem write_obj (spacing : Spacing) (depth : Nat) (fields : Dict Json) :
    write spacing depth (.obj fields) = spacing.enclose depth '\x7b' '\x7d'
      (fields.map fun field ↦ fieldText field.1 (write spacing (depth + 1) field.2)) := by
  have hfields : writeFields spacing (depth + 1) fields =
      fields.map fun field ↦ fieldText field.1 (write spacing (depth + 1) field.2) := by
    induction fields with
    | nil => rfl
    | cons field rest ih =>
      rw [List.map_cons, ← ih]
      rfl
  rw [← hfields]
  rfl

/-- Entries with separators in between denote the entries, with blanks behind the last one. -/
theorem denotes_intercalate {container : Container} {text : container.Entry → List Char}
    {entries : List container.Entry} (hentries : entries ≠ [])
    (h : ∀ entry ∈ entries, ∀ space, IsSpace space →
      Denotes (.entry container) (text entry ++ space) entry)
    (spacing : Spacing) (depth : Nat) {space : List Char} (hspace : IsSpace space) :
    Denotes (.entries container)
      ((spacing.separator depth).intercalate (entries.map text) ++ space) entries := by
  induction entries with
  | nil => exact absurd rfl hentries
  | cons entry others ih =>
    obtain ⟨hentry, hothers⟩ := List.forall_mem_cons.mp h
    cases others with
    | nil =>
      rw [List.map_singleton, List.intercalate_singleton]
      exact .last (hentry space hspace)
    | cons next others =>
      obtain ⟨space', hspace', hseparator⟩ := exists_separator spacing depth
      have hnext := Denotes.next (hentry [] isSpace_nil) hspace' (ih (List.cons_ne_nil _ _) hothers)
      simp only [List.map_cons] at hnext ⊢
      rw [List.intercalate_cons_cons]
      simpa [hseparator] using hnext

/-- Entries in brackets denote the container of the entries. -/
theorem denotes_enclose (container : Container) {text : container.Entry → List Char}
    {entries : List container.Entry}
    (h : ∀ entry ∈ entries, ∀ space, IsSpace space →
      Denotes (.entry container) (text entry ++ space) entry) (spacing : Spacing) (depth : Nat) :
    Denotes .value (spacing.enclose depth container.opening container.closing (entries.map text))
      (container.value entries) := by
  unfold Spacing.enclose
  split
  · rename_i hempty
    obtain rfl := List.map_eq_nil_iff.mp (List.isEmpty_iff.mp hempty)
    exact .empty isSpace_nil
  · rename_i hnonempty
    have hentries : entries ≠ [] := by
      rintro rfl
      exact hnonempty rfl
    have hfull := Denotes.full (isSpace_lineBreak spacing (depth + 1))
      (denotes_intercalate hentries h spacing (depth + 1) (isSpace_lineBreak spacing depth))
    simpa using hfull

/-- A written field denotes its key and its value. -/
theorem denotes_field (key : String) {text space : List Char} {value : Json}
    (h : Denotes .value text value) (hspace : IsSpace space) :
    Denotes (.entry .object) (fieldText key text ++ space) (key, value) := by
  have hfield := Denotes.field (denotesString_flatMap_escape key.toList) isSpace_nil
    (isSpace_replicate 1) h hspace
  rw [String.ofList_toList] at hfield
  simpa [fieldText, quoted] using hfield

/-! ## Values -/

theorem denotes_numeral {text : List Char} {value : Json}
    (h : ∃ numeral, SpellsNumeral numeral text ∧ numeral.value? = some value) :
    Denotes .value text value := by
  obtain ⟨numeral, hspells, hvalue⟩ := h
  exact .numeral hspells (Numeral.value?_eq_some_iff.mp hvalue)

mutual

/-- What is written for a faithful value denotes that value, at any depth. -/
theorem denotes_write (spacing : Spacing) (depth : Nat) : ∀ {value : Json}, Faithful value →
    Denotes .value (write spacing depth value) value
  | .null, _ => .word (.head _)
  | .bool true, _ => .word (.tail _ (.head _))
  | .bool false, _ => .word (.tail _ (.tail _ (.head _)))
  | .int n, h => by
    have hshort : (Nat.toDigits 10 n.natAbs).length ≤ integerDigitLimit := by
      simpa [isWritable] using h.writable
    obtain ⟨numeral, hspells, hvalue⟩ := spells_integerText n
    exact denotes_numeral ⟨numeral, hspells, hvalue hshort⟩
  | .float x, h => by
    have hfinite := isFinite_float_iff.mp h.finite
    cases x with
    | nan => cases hfinite
    | infinite negative => cases hfinite
    | finite x => exact denotes_numeral (Double.Layout.document.spells_text x)
  | .str s, _ => by
    have hstring := Denotes.string (denotesString_flatMap_escape s.toList)
    rw [String.ofList_toList] at hstring
    exact hstring
  | .arr items, h => by
    have hitems := denotes_writeItems spacing (depth + 1) h.items
    rw [write_arr]
    exact denotes_enclose .array (fun item hitem _ hspace ↦ .item (hitems item hitem) hspace)
      spacing depth
  | .obj fields, h => by
    have hfields := denotes_writeFields spacing (depth + 1) h.fields
    have henclosed := denotes_enclose .object
      (fun field hfield _ hspace ↦ denotes_field field.1 (hfields field hfield) hspace)
      spacing depth
    rw [write_obj]
    rwa [Container.value, Dict.ofList_of_nodup (h.distinct _ .self)] at henclosed

/-- Every item is denoted by its own text. -/
theorem denotes_writeItems (spacing : Spacing) (depth : Nat) : ∀ {items : List Json},
    (∀ item ∈ items, Faithful item) →
      ∀ item ∈ items, Denotes .value (write spacing depth item) item
  | [], _ => fun _ hitem ↦ absurd hitem List.not_mem_nil
  | _ :: _, h =>
    List.forall_mem_cons.mpr ⟨denotes_write spacing depth (List.forall_mem_cons.mp h).1,
      denotes_writeItems spacing depth (List.forall_mem_cons.mp h).2⟩

theorem denotes_writeFields (spacing : Spacing) (depth : Nat) : ∀ {fields : List (String × Json)},
    (∀ field ∈ fields, Faithful field.2) →
      ∀ field ∈ fields, Denotes .value (write spacing depth field.2) field.2
  | [], _ => fun _ hfield ↦ absurd hfield List.not_mem_nil
  | (_, _) :: _, h =>
    List.forall_mem_cons.mpr ⟨denotes_write spacing depth (List.forall_mem_cons.mp h).1,
      denotes_writeFields spacing depth (List.forall_mem_cons.mp h).2⟩

end

/-- The text of a faithful value, with blanks behind it, is read as that value. -/
theorem read?_write {value : Json} (h : Faithful value) (spacing : Spacing) {space : List Char}
    (hspace : Grammar.IsSpace space) : read? (write spacing 0 value ++ space) = some value :=
  read?_of_denotesText (.mk isSpace_nil (denotes_write spacing 0 h) hspace)

end Schematic.Json
