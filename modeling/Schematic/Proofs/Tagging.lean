import Schematic.Proofs.Dictionary
import Schematic.Tag.Number
import Schematic.Doc.Symbol

/-!
# Tags of a declaration

A declaration carries a tag when its symbol lists one of that name. The tags of a
symbol can be read exactly when all of them are named, and then the mapping of tags to
texts holds the names that the symbol lists and no text that none of its tags has.
-/

namespace Schematic.Symbol

/-- Whether a declaration carries a tag of the given name. -/
def hasTag (name : String) (symbol : Option Symbol) : Bool :=
  symbol.any fun symbol ↦ symbol.tags.any fun tag ↦ tag.name = name

/-- Every tag is named, and no tag's text starts with an integer too long to convert. -/
structure Readable (symbol : Option Symbol) : Prop where
  named : ∀ s ∈ symbol, ∀ tag ∈ s.tags, tag.name ≠ ""
  convertible : ∀ s ∈ symbol, ∀ tag ∈ s.tags,
    ∀ count ∈ Tag.countDigits? (String.join tag.text).toList,
      count.2.length ≤ Json.integerDigitLimit

instance (symbol : Option Symbol) : Decidable (Readable symbol) :=
  decidable_of_iff
    ((∀ s ∈ symbol, ∀ tag ∈ s.tags, tag.name ≠ "") ∧ ∀ s ∈ symbol, ∀ tag ∈ s.tags,
      ∀ count ∈ Tag.countDigits? (String.join tag.text).toList,
        count.2.length ≤ Json.integerDigitLimit)
    ⟨fun h ↦ ⟨h.1, h.2⟩, fun h ↦ ⟨h.named, h.convertible⟩⟩

theorem readable_none : Readable none := ⟨by simp, by simp⟩

theorem tagTextsOf_eq_ok {symbol : Option Symbol}
    (h : ∀ s ∈ symbol, ∀ tag ∈ s.tags, tag.name ≠ "") :
    ∃ tags, tagTextsOf symbol = .ok tags := by
  cases symbol with
  | none => exact ⟨[], rfl⟩
  | some s =>
    have hall : s.tags.all (·.name ≠ "") := by simpa using h s rfl
    exact ⟨_, by rw [tagTextsOf, tagTexts, entries, if_pos hall]; rfl⟩

theorem tagTextsOf_eq_error {symbol : Option Symbol} {failure : Failure}
    (h : tagTextsOf symbol = .error failure) : ∃ problems, failure = .invalid problems := by
  cases symbol with
  | none => simp [tagTextsOf] at h
  | some s =>
    simp only [tagTextsOf, tagTexts, entries] at h
    split at h
    · simp [Except.map] at h
    · simp only [Except.map, Except.error.injEq] at h
      exact ⟨_, h.symm⟩

/-- The mapping of tags is laid out from the names and joined texts that the symbol lists. -/
theorem tagTextsOf_some {s : Symbol} {tags : Dict String} (h : tagTextsOf (some s) = .ok tags) :
    tags = Dict.ofList (s.tags.map fun tag ↦ (tag.name, String.join tag.text)) := by
  simp only [tagTextsOf, tagTexts, entries] at h
  split at h
  · simpa [Except.map, eq_comm] using h
  · simp [Except.map] at h

/-- The texts are kept by the names of the tags. -/
theorem contains_tagTextsOf {symbol : Option Symbol} {tags : Dict String}
    (h : tagTextsOf symbol = .ok tags) (name : String) :
    Dict.contains name tags = hasTag name symbol := by
  rw [Bool.eq_iff_iff, Dict.contains_iff_mem_keys]
  cases symbol with
  | none =>
    obtain rfl : [] = tags := by simpa [tagTextsOf] using h
    simp [Dict.keys, hasTag]
  | some s =>
    rw [tagTextsOf_some h, Dict.mem_keys_ofList]
    simp [hasTag]

theorem nodup_keys_tagTextsOf {symbol : Option Symbol} {tags : Dict String}
    (h : tagTextsOf symbol = .ok tags) : (Dict.keys tags).Nodup := by
  cases symbol with
  | none =>
    obtain rfl := Except.ok.inj h
    exact List.nodup_nil
  | some s =>
    rw [tagTextsOf_some h]
    exact Dict.nodup_keys_ofList _

theorem exists_tag_of_mem {symbol : Option Symbol} {tags : Dict String}
    (h : tagTextsOf symbol = .ok tags) {name text : String} (hmem : (name, text) ∈ tags) :
    ∃ s ∈ symbol, ∃ tag ∈ s.tags, tag.name = name ∧ String.join tag.text = text := by
  cases symbol with
  | none =>
    obtain rfl : [] = tags := by simpa [tagTextsOf] using h
    simp at hmem
  | some s =>
    rw [tagTextsOf_some h] at hmem
    have hlisted := Dict.mem_of_mem_ofList hmem
    simp only [List.mem_map, Prod.mk.injEq] at hlisted
    obtain ⟨tag, htag, hname, htext⟩ := hlisted
    exact ⟨s, rfl, tag, htag, hname, htext⟩

/-- The count at the front of a readable tag's text can be converted. -/
theorem Readable.count?_ne_error {symbol : Option Symbol} (hsymbol : Readable symbol)
    {tags : Dict String} (h : tagTextsOf symbol = .ok tags) {name text : String}
    (hmem : (name, text) ∈ tags) (failure : Failure) : Tag.count? text ≠ .error failure := by
  obtain ⟨s, hs, tag, htag, -, rfl⟩ := exists_tag_of_mem h hmem
  unfold Tag.count?
  split
  · simp
  · rename_i negative digits hdigits
    have hshort := hsymbol.convertible s hs tag htag _ hdigits
    rw [if_neg (Nat.not_lt.mpr hshort)]
    simp

end Schematic.Symbol
