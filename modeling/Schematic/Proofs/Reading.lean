import Mathlib.Data.List.TakeWhile
import Schematic.Proofs.Denotation

/-!
# Texts that are read

What is read is a JSON text, and its value is the one that the text denotes. So the value is
finite where the numerals are in range; out of range, the reader makes an infinite number of a
numeral, although it takes no word for one. The readers take their parts from the front of a
text, so each is shown to leave the rest.
-/

namespace Schematic.Json

open Grammar

/-! ## Blanks, words and digits -/

namespace Reader

theorem exists_space (cs : List Char) : ∃ space, IsSpace space ∧ cs = space ++ skipSpace cs :=
  ⟨cs.takeWhile isSpace, fun _ hc ↦ List.mem_takeWhile_imp hc,
    List.takeWhile_append_dropWhile.symm⟩

/-- A reader that changes what another one takes leaves the same rest. -/
theorem exists_of_map {α β : Type} (f : α → β) {read : Option (α × List Char)} {value : β}
    {rest : List Char} (h : (read.map fun (a, rest) ↦ (f a, rest)) = some (value, rest)) :
    ∃ a, read = some (a, rest) ∧ f a = value := by
  obtain ⟨⟨a, _⟩, hread, heq⟩ := Option.map_eq_some_iff.mp h
  obtain ⟨hvalue, rfl⟩ := Prod.mk.inj heq
  exact ⟨a, hread, hvalue⟩

theorem word_sound {text cs rest : List Char} {value read : Json}
    (h : word text value cs = some (read, rest)) : read = value ∧ cs = text ++ rest := by
  unfold word at h
  split at h
  · rename_i hprefix
    obtain ⟨rfl, rfl⟩ := Prod.mk.inj (Option.some.inj h)
    refine ⟨rfl, ?_⟩
    exact (List.prefix_iff_eq_append.mp (List.isPrefixOf_iff_prefix.mp hprefix)).symm
  · cases h

theorem digits?_sound {cs digits rest : List Char} (h : digits? cs = some (digits, rest)) :
    IsDigits digits ∧ cs = digits ++ rest := by
  unfold digits? at h
  dsimp only at h
  split at h
  · cases h
  · rename_i hnonempty
    obtain ⟨rfl, rfl⟩ := Prod.mk.inj (Option.some.inj h)
    refine ⟨⟨fun hnil ↦ hnonempty (by rw [hnil]; rfl), fun _ hc ↦ List.mem_takeWhile_imp hc⟩, ?_⟩
    exact List.takeWhile_append_dropWhile.symm

theorem whole?_sound {cs whole rest : List Char} (h : whole? cs = some (whole, rest)) :
    IsWhole whole ∧ cs = whole ++ rest := by
  unfold whole? at h
  split at h
  · obtain ⟨rfl, rfl⟩ := Prod.mk.inj (Option.some.inj h)
    exact ⟨isWhole_zero, rfl⟩
  · rename_i hzero
    obtain ⟨hdigits, rfl⟩ := digits?_sound h
    refine ⟨⟨hdigits, fun hhead ↦ ?_⟩, rfl⟩
    obtain ⟨others, rfl⟩ := List.head?_eq_some_iff.mp hhead
    exact absurd rfl (hzero (others ++ rest))

theorem fraction?_sound {cs digits rest : List Char} (h : fraction? cs = some (digits, rest)) :
    ∃ text, SpellsFraction (some digits) text ∧ cs = text ++ rest := by
  unfold fraction? at h
  split at h
  · obtain ⟨hdigits, rfl⟩ := digits?_sound h
    exact ⟨_, .some hdigits, rfl⟩
  · cases h

theorem signedDigits?_sound {cs rest : List Char} {exponent : Bool × List Char}
    (h : signedDigits? cs = some (exponent, rest)) :
    ∃ sign, (exponent.1, sign) ∈ exponentSigns ∧ IsDigits exponent.2 ∧
      cs = sign ++ exponent.2 ++ rest := by
  unfold signedDigits? at h
  split at h
  all_goals
    obtain ⟨digits, hread, rfl⟩ := exists_of_map _ h
    obtain ⟨hdigits, rfl⟩ := digits?_sound hread
  · exact ⟨['-'], .tail _ (.tail _ (.head _)), hdigits, rfl⟩
  · exact ⟨['+'], .tail _ (.head _), hdigits, rfl⟩
  · exact ⟨[], .head _, hdigits, rfl⟩

theorem exponent?_sound {cs rest : List Char} {exponent : Bool × List Char}
    (h : exponent? cs = some (exponent, rest)) :
    ∃ text, SpellsExponent (some exponent) text ∧ cs = text ++ rest := by
  unfold exponent? at h
  split at h
  · obtain ⟨sign, hsign, hdigits, rfl⟩ := signedDigits?_sound h
    exact ⟨_, .some (by decide) hsign hdigits, rfl⟩
  · obtain ⟨sign, hsign, hdigits, rfl⟩ := signedDigits?_sound h
    exact ⟨_, .some (by decide) hsign hdigits, rfl⟩
  · cases h

/-! ## Numbers -/

theorem optional_fraction_sound (cs : List Char) :
    ∃ text, SpellsFraction (optional fraction? cs).1 text ∧
      cs = text ++ (optional fraction? cs).2 := by
  unfold optional
  split
  · exact fraction?_sound ‹_›
  · exact ⟨[], .none, rfl⟩

theorem optional_exponent_sound (cs : List Char) :
    ∃ text, SpellsExponent (optional exponent? cs).1 text ∧
      cs = text ++ (optional exponent? cs).2 := by
  unfold optional
  split
  · exact exponent?_sound ‹_›
  · exact ⟨[], .none, rfl⟩

/-- A numeral that is read denotes its value. -/
theorem unsigned_sound {negative : Bool} {cs rest : List Char} {value : Json}
    (h : unsigned negative cs = some (value, rest)) :
    ∃ numeral text, numeral.negative = negative ∧
      SpellsNumeral numeral ((if negative then ['-'] else []) ++ text) ∧ cs = text ++ rest ∧
      numeral.Denotes value := by
  obtain ⟨⟨whole, afterWhole⟩, hwhole, h⟩ := Option.bind_eq_some_iff.mp h
  obtain ⟨value', hnumeral, hvalue⟩ := Option.bind_eq_some_iff.mp h
  obtain ⟨rfl, hend⟩ : value' = value ∧
      (optional exponent? (optional fraction? afterWhole).2).2 = rest :=
    Prod.mk.inj (Option.some.inj hvalue)
  obtain ⟨hspelled, hfront⟩ := whole?_sound hwhole
  obtain ⟨fraction, hfraction, hmiddle⟩ := optional_fraction_sound afterWhole
  obtain ⟨exponent, hexponent, hlast⟩ := optional_exponent_sound (optional fraction? afterWhole).2
  refine ⟨⟨negative, whole, _, _⟩, whole ++ (fraction ++ exponent), rfl,
    .mk hspelled hfraction hexponent, ?_, Numeral.value?_eq_some_iff.mp hnumeral⟩
  calc
    cs = whole ++ (fraction ++ (optional fraction? afterWhole).2) := by rw [hfront, ← hmiddle]
    _ = whole ++ (fraction ++ (exponent ++ rest)) := by rw [← hend, ← hlast]
    _ = whole ++ (fraction ++ exponent) ++ rest := by simp only [List.append_assoc]

/-- What is read is denoted by a part at the front of the text. -/
inductive Reads (part : Part) (meaning : part.Meaning) (cs rest : List Char) : Prop where
  | mk {text : List Char} (htext : cs = text ++ rest) (hdenotes : Denotes part text meaning)

theorem number_sound {cs rest : List Char} {value : Json} (h : number cs = some (value, rest)) :
    Reads .value value cs rest := by
  unfold number at h
  split at h
  all_goals
    obtain ⟨numeral, text, -, hspelled, rfl, hvalue⟩ := unsigned_sound h
    exact .mk rfl (.numeral hspelled hvalue)

/-! ## Strings -/

theorem mem_escapes {letter c : Char} (h : shortEscaped? letter = some c) :
    (letter, c) ∈ escapes := by
  unfold shortEscaped? at h
  split_ifs at h with hself hn hr ht hf hb
  · obtain rfl := Option.some.inj h
    rcases hself with rfl | rfl | rfl <;> decide
  all_goals
    obtain rfl := Option.some.inj h
    subst letter
    decide

theorem exists_of_consChar {c : Char} {read : Option (List Char × List Char)}
    {content rest : List Char} (h : consChar c read = some (content, rest)) :
    ∃ others, read = some (others, rest) ∧ c :: others = content :=
  exists_of_map _ h

/-- A string is denoted by the text up to its closing quotation mark. -/
theorem string_sound {cs content rest : List Char} (h : string cs = some (content, rest)) :
    ∃ text, DenotesString text content ∧ cs = text ++ '\x22' :: rest := by
  fun_induction string cs generalizing content with
  | case1 => cases h
  | case2 =>
    obtain ⟨rfl, rfl⟩ := Prod.mk.inj (Option.some.inj h)
    exact ⟨[], .nil, rfl⟩
  | case4 p q r s high hunit hhigh p' q' r' s' rest' low hunit' hlow ih =>
    obtain ⟨others, hothers, rfl⟩ := exists_of_consChar h
    obtain ⟨text, htext, rfl⟩ := ih hothers
    exact ⟨_, .pair hunit hunit' hhigh hlow (toNat_joinSurrogates hhigh hlow) htext, rfl⟩
  | case9 p q r s rest' unit hunit hhigh hlow ih =>
    obtain ⟨others, hothers, rfl⟩ := exists_of_consChar h
    obtain ⟨text, htext, rfl⟩ := ih hothers
    have hcode := toNat_ofNat_unit (unit?_lt hunit) hhigh hlow
    exact ⟨_, .unit (hunit.trans (congrArg some hcode.symm)) htext, rfl⟩
  | case10 letter rest' _ c hletter ih =>
    obtain ⟨others, hothers, rfl⟩ := exists_of_consChar h
    obtain ⟨text, htext, rfl⟩ := ih hothers
    exact ⟨_, .short (mem_escapes hletter) htext, rfl⟩
  | case13 c rest' hquote _ _ hplain ih =>
    obtain ⟨others, hothers, rfl⟩ := exists_of_consChar h
    obtain ⟨text, htext, rfl⟩ := ih hothers
    obtain ⟨hcontrol, hbackslash⟩ := not_or.mp hplain
    exact ⟨_, .plain (not_lt.mp hcontrol) hquote hbackslash htext, rfl⟩
  | _ => cases h

/-! ## Values -/

/-- What the readers of values, items and fields take is denoted, up to a bound of the text. -/
structure Sound (fuel : Nat) : Prop where
  value {cs rest : List Char} {read : Json} (h : value fuel cs = some (read, rest)) :
    Reads .value read cs rest
  items {cs rest : List Char} {read : List Json} (h : items fuel cs = some (read, rest)) :
    Reads (.entries .array) read cs (']' :: rest)
  fields {cs rest : List Char} {read : List (String × Json)}
    (h : fields fuel cs = some (read, rest)) :
    Reads (.entries .object) read cs ('\x7d' :: rest)

theorem reads_word {text cs rest : List Char} {value read : Json}
    (hword : (text, value) ∈ wordValues) (h : word text value cs = some (read, rest)) :
    Reads .value read cs rest := by
  obtain ⟨rfl, rfl⟩ := word_sound h
  exact .mk rfl (.word hword)

theorem reads_empty (container : Container) {cs rest : List Char}
    (h : skipSpace cs = container.closing :: rest) :
    Reads .value (container.value []) (container.opening :: cs) rest := by
  obtain ⟨space, hspace, hcs⟩ := exists_space cs
  refine .mk ?_ (.empty hspace)
  rw [hcs, h, List.cons_append, List.append_assoc, List.cons_append, List.nil_append]

theorem reads_full (container : Container) {cs rest : List Char} {entries : List container.Entry}
    (h : Reads (.entries container) entries (skipSpace cs) (container.closing :: rest)) :
    Reads .value (container.value entries) (container.opening :: cs) rest := by
  obtain ⟨space, hspace, hcs⟩ := exists_space cs
  obtain ⟨htext, hdenotes⟩ := h
  refine .mk ?_ (.full hspace hdenotes)
  rw [hcs, htext]
  simp

theorem reads_item {cs rest : List Char} {value : Json} (h : Reads .value value cs rest) :
    Reads (.entry .array) value cs (skipSpace rest) := by
  obtain ⟨space, hspace, hrest⟩ := exists_space rest
  obtain ⟨htext, hdenotes⟩ := h
  refine .mk ?_ (.item hdenotes hspace)
  rw [htext, List.append_assoc, ← hrest]

/-- A field is read with the blanks around its colon. -/
theorem reads_field {cs rest content others : List Char} {value : Json}
    (hkey : string cs = some (content, rest)) (hcolon : skipSpace rest = ':' :: others)
    {last : List Char} (h : Reads .value value (skipSpace others) last) :
    Reads (.entry .object) (String.ofList content, value) ('\x22' :: cs) (skipSpace last) := by
  obtain ⟨key, hdenotes, rfl⟩ := string_sound hkey
  obtain ⟨space, hspace, hrest⟩ := exists_space rest
  obtain ⟨space', hspace', hothers⟩ := exists_space others
  obtain ⟨space'', hspace'', hlast⟩ := exists_space last
  obtain ⟨htext, hvalue⟩ := h
  refine .mk ?_ (.field hdenotes hspace hspace' hvalue hspace'')
  rw [hrest, hcolon, hothers, htext]
  simp [← hlast]

theorem reads_last {container : Container} {cs rest : List Char} {entry : container.Entry}
    (h : Reads (.entry container) entry cs rest) : Reads (.entries container) [entry] cs rest := by
  obtain ⟨htext, hdenotes⟩ := h
  exact .mk htext (.last hdenotes)

theorem reads_next {container : Container} {cs others rest : List Char} {entry : container.Entry}
    {tail : List container.Entry} (h : Reads (.entry container) entry cs (',' :: others))
    (htail : Reads (.entries container) tail (skipSpace others) rest) :
    Reads (.entries container) (entry :: tail) cs rest := by
  obtain ⟨space, hspace, hothers⟩ := exists_space others
  obtain ⟨htext, hdenotes⟩ := h
  obtain ⟨htext', hdenotes'⟩ := htail
  refine .mk ?_ (.next hdenotes hspace hdenotes')
  rw [htext, hothers, htext']
  simp

/-- One step deeper, the value that is read is denoted. -/
theorem Sound.value_succ {fuel : Nat} (h : Sound fuel) {cs rest : List Char} {read : Json}
    (hread : Reader.value (fuel + 1) cs = some (read, rest)) : Reads .value read cs rest := by
  unfold Reader.value at hread
  split at hread
  · obtain ⟨content, hstring, rfl⟩ := exists_of_map (fun cs ↦ str (String.ofList cs)) hread
    obtain ⟨text, htext, rfl⟩ := string_sound hstring
    refine .mk ?_ (.string htext)
    simp
  · split at hread
    · rename_i hspace
      obtain ⟨rfl, rfl⟩ := Prod.mk.inj (Option.some.inj hread)
      exact reads_empty .array hspace
    · obtain ⟨read, hitems, rfl⟩ := exists_of_map _ hread
      exact reads_full .array (h.items hitems)
  · split at hread
    · rename_i hspace
      obtain ⟨rfl, rfl⟩ := Prod.mk.inj (Option.some.inj hread)
      exact reads_empty .object hspace
    · obtain ⟨read, hfields, rfl⟩ := exists_of_map (fun fields ↦ obj (Dict.ofList fields)) hread
      exact reads_full .object (h.fields hfields)
  · exact reads_word (.head _) hread
  · exact reads_word (.tail _ (.head _)) hread
  · exact reads_word (.tail _ (.tail _ (.head _))) hread
  · exact number_sound hread

theorem Sound.items_succ {fuel : Nat} (h : Sound fuel) {cs rest : List Char} {read : List Json}
    (hread : Reader.items (fuel + 1) cs = some (read, rest)) :
    Reads (.entries .array) read cs (']' :: rest) := by
  unfold Reader.items at hread
  split at hread
  · cases hread
  · rename_i item others hitem
    have hentry := reads_item (h.value hitem)
    split at hread
    · rename_i hcomma
      obtain ⟨tail, htail, rfl⟩ := exists_of_map _ hread
      rw [hcomma] at hentry
      exact reads_next hentry (h.items htail)
    · rename_i hclosing
      obtain ⟨rfl, rfl⟩ := Prod.mk.inj (Option.some.inj hread)
      rw [hclosing] at hentry
      exact reads_last hentry
    · cases hread

theorem Sound.fields_succ {fuel : Nat} (h : Sound fuel) {cs rest : List Char}
    {read : List (String × Json)} (hread : Reader.fields (fuel + 1) cs = some (read, rest)) :
    Reads (.entries .object) read cs ('\x7d' :: rest) := by
  unfold Reader.fields at hread
  split at hread
  · split at hread
    · cases hread
    · rename_i key afterKey hkey
      split at hread
      · rename_i afterColon hcolon
        split at hread
        · cases hread
        · rename_i item others hitem
          have hentry := reads_field hkey hcolon (h.value hitem)
          dsimp only at hread
          split at hread
          · rename_i hcomma
            obtain ⟨tail, htail, rfl⟩ := exists_of_map _ hread
            rw [hcomma] at hentry
            exact reads_next hentry (h.fields htail)
          · rename_i hclosing
            obtain ⟨rfl, rfl⟩ := Prod.mk.inj (Option.some.inj hread)
            rw [hclosing] at hentry
            exact reads_last hentry
          · cases hread
      · cases hread
  · cases hread

/-- By induction on the bound, no reader takes what the grammar does not allow. -/
theorem sound (fuel : Nat) : Sound fuel := by
  induction fuel with
  | zero =>
    constructor <;> intro cs rest read h <;> cases h
  | succ fuel ih => exact ⟨ih.value_succ, ih.items_succ, ih.fields_succ⟩

end Reader

/-- The value that is read is the one that the text denotes. -/
theorem denotesText_of_read? {cs : List Char} {value : Json} (h : read? cs = some value) :
    DenotesText cs value := by
  unfold read? at h
  split at h
  · rename_i found rest hvalue
    split at h
    · rename_i hend
      obtain rfl := Option.some.inj h
      obtain ⟨space, hspace, hcs⟩ := Reader.exists_space cs
      obtain ⟨space', hspace', hrest⟩ := Reader.exists_space rest
      obtain ⟨htext, hdenotes⟩ := (Reader.sound _).value hvalue
      rw [List.isEmpty_iff.mp hend, List.append_nil] at hrest
      rw [hcs, htext, hrest]
      exact .mk hspace hdenotes hspace'
    · cases h
  · cases h

/-- A text that is read is a JSON text, and its value is finite where all its numerals are in
range. -/
theorem read?_sound {cs : List Char} {value : Json} (h : read? cs = some value) :
    ∃ numerals, IsText cs numerals ∧
      ((∀ numeral ∈ numerals, numeral.InRange) → value.IsFinite) := by
  obtain ⟨numerals, htext, -, hfinite, -⟩ := (denotesText_of_read? h).isText
  exact ⟨numerals, htext, hfinite⟩

/-- The keys of what is read are distinct. -/
theorem hasDistinctKeys_of_read? {cs : List Char} {value : Json} (h : read? cs = some value) :
    value.HasDistinctKeys := by
  obtain ⟨-, -, -, -, hdistinct⟩ := (denotesText_of_read? h).isText
  exact hdistinct

end Schematic.Json
