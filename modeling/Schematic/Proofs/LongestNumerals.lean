import Mathlib.Data.List.TakeWhile
import Schematic.Proofs.TagNumbers

/-!
# The longest numeral of a text

The number of a tag is read from the longest prefix of its text that is a numeral, after blanks.
A numeral has a sign or none, digits with or without a point between them, and an exponent or
none; a count has a sign or none and digits. What can be read is a prefix of that form, and
the longest one is read: its last part cannot be extended, so the reader stops where it ends.
-/

namespace Schematic

namespace Text

/-! ## Longest prefixes -/

/-- The longest prefix of a text that has a form. -/
structure IsLongest (Form : List Char → Prop) (cs front : List Char) : Prop where
  initial : front <+: cs
  form : Form front
  longest : ∀ other, other <+: cs → Form other → other.length ≤ front.length

section

variable {Form : List Char → Prop} {cs front : List Char}

/-- A text with a prefix of a form has a longest one. -/
theorem exists_isLongest (hinitial : front <+: cs) (hform : Form front) :
    ∃ longest, IsLongest Form cs longest := by
  induction hn : cs.length - front.length using Nat.strongRecOn generalizing front with
  | ind n ih =>
    by_cases hlonger : ∃ other, other <+: cs ∧ Form other ∧ front.length < other.length
    · obtain ⟨other, hother, hotherForm, hlength⟩ := hlonger
      have hle := hother.length_le
      exact ih _ (by omega) hother hotherForm rfl
    · refine ⟨front, hinitial, hform, fun other hother hotherForm ↦ ?_⟩
      exact Nat.le_of_not_lt fun hlength ↦ hlonger ⟨other, hother, hotherForm, hlength⟩

/-- What follows the longest prefix does not extend it. -/
theorem IsLongest.not_form {rest extension : List Char} (h : IsLongest Form (front ++ rest) front)
    (hextension : extension <+: rest) (hne : extension ≠ []) : ¬ Form (front ++ extension) := by
  intro hform
  have hle := h.longest _ ((List.prefix_append_right_inj front).mpr hextension) hform
  rw [List.length_append] at hle
  have hpos := List.length_pos_of_ne_nil hne
  omega

/-- A character that extends the form does not follow the longest prefix. -/
theorem IsLongest.head?_of_form {rest : List Char} {P : Char → Prop}
    (h : IsLongest Form (front ++ rest) front) (hform : ∀ c, P c → Form (front ++ [c])) :
    ∀ c ∈ rest.head?, ¬ P c := by
  intro c hc hp
  obtain ⟨rest', rfl⟩ := List.head?_eq_some_iff.mp hc
  have hextension : [c] <+: c :: rest' := ⟨rest', rfl⟩
  exact h.not_form hextension (List.cons_ne_nil _ _) (hform c hp)

end

/-- The characters at the front that satisfy a predicate end before one that does not. -/
theorem takeWhile_append_of_head {P : Char → Bool} {cs rest : List Char}
    (h : ∀ c ∈ cs, P c = true) (hrest : ∀ c ∈ rest.head?, ¬ P c = true) :
    (cs ++ rest).takeWhile P = cs ∧ (cs ++ rest).dropWhile P = rest := by
  rw [List.takeWhile_append_of_pos h, List.dropWhile_append_of_pos h]
  cases rest with
  | nil => exact ⟨List.append_nil _, rfl⟩
  | cons c rest =>
    have hc := hrest c rfl
    rw [List.takeWhile_cons_of_neg hc, List.dropWhile_cons_of_neg hc]
    exact ⟨List.append_nil _, rfl⟩

end Text

namespace Tag

open Text
open Json.Reader (signedValue)

/-! ## The forms -/

def IsDigits (cs : List Char) : Prop :=
  cs ≠ [] ∧ ∀ c ∈ cs, isDecimalDigit c = true

inductive SpellsSign : Bool → List Char → Prop where
  | none : SpellsSign false []
  | plus : SpellsSign false ['+']
  | minus : SpellsSign true ['-']

/-- A text spells an integer by its sign and its digits. -/
inductive SpellsCount : Bool → List Char → List Char → Prop where
  | mk {negative : Bool} {sign digits : List Char} (hsign : SpellsSign negative sign)
      (hdigits : IsDigits digits) : SpellsCount negative digits (sign ++ digits)

/-- The digits before and after the point; without a point, there are none after it. -/
inductive SpellsPlaces : List Char → List Char → List Char → Prop where
  | whole {whole : List Char} (hwhole : IsDigits whole) : SpellsPlaces whole [] whole
  | pointed {whole fraction : List Char} (hwhole : IsDigits whole)
      (hfraction : ∀ c ∈ fraction, isDecimalDigit c = true) :
      SpellsPlaces whole fraction (whole ++ '.' :: fraction)
  | fraction {fraction : List Char} (hfraction : IsDigits fraction) :
      SpellsPlaces [] fraction ('.' :: fraction)

/-- The power of ten that an exponent stands for. -/
inductive SpellsPower : ℤ → List Char → Prop where
  | none : SpellsPower 0 []
  | some {letter : Char} {negative : Bool} {sign digits : List Char} (hletter : letter ∈ ['e', 'E'])
      (hsign : SpellsSign negative sign) (hdigits : IsDigits digits) :
      SpellsPower (signedValue negative (digitsValue digits)) (letter :: (sign ++ digits))

/-- A text spells a number by a sign and a decimal, `digits * 10 ^ exponent`. -/
inductive SpellsDecimal : Bool → Nat → ℤ → List Char → Prop where
  | mk {negative : Bool} {sign whole fraction places exponent : List Char} {power : ℤ}
      (hsign : SpellsSign negative sign) (hplaces : SpellsPlaces whole fraction places)
      (hpower : SpellsPower power exponent) :
      SpellsDecimal negative (digitsValue (whole ++ fraction)) (power - fraction.length)
        (sign ++ (places ++ exponent))

def IsCount (cs : List Char) : Prop :=
  ∃ negative digits, SpellsCount negative digits cs

def IsDecimal (cs : List Char) : Prop :=
  ∃ negative digits exponent, SpellsDecimal negative digits exponent cs

/-! ## Signs -/

theorem takeSign_append {negative : Bool} {sign rest : List Char} (hsign : SpellsSign negative sign)
    (hrest : ∀ c ∈ rest.head?, c ≠ '-' ∧ c ≠ '+') :
    Numeral.takeSign (sign ++ rest) = (negative, rest) := by
  cases hsign with
  | plus => rfl
  | minus => rfl
  | none =>
    rw [List.nil_append]
    unfold Numeral.takeSign
    split
    · exact absurd rfl (hrest '-' rfl).1
    · exact absurd rfl (hrest '+' rfl).2
    · rfl

/-- What is taken as a sign is a sign, and nothing else is taken. -/
theorem exists_takeSign (cs : List Char) :
    ∃ sign, SpellsSign (Numeral.takeSign cs).1 sign ∧ sign ++ (Numeral.takeSign cs).2 = cs := by
  unfold Numeral.takeSign
  split
  · exact ⟨['-'], .minus, rfl⟩
  · exact ⟨['+'], .plus, rfl⟩
  · exact ⟨[], .none, rfl⟩

/-- A prefix may be prolonged by what stands before it. -/
theorem append_initial {cs sign rest front : List Char} (hcs : sign ++ rest = cs)
    (hfront : front <+: rest) : sign ++ front <+: cs := by
  rw [← hcs]
  exact (List.prefix_append_right_inj sign).mpr hfront

theorem IsDigits.head_ne {cs rest : List Char} (h : IsDigits cs) :
    ∀ c ∈ (cs ++ rest).head?, c ≠ '-' ∧ c ≠ '+' := by
  obtain ⟨first, others, rfl⟩ := List.exists_cons_of_ne_nil h.1
  intro c hc
  obtain rfl := Option.some.inj hc
  have hdigit := h.2 first List.mem_cons_self
  constructor <;> rintro rfl <;> exact absurd hdigit (by decide)

theorem IsDigits.concat {cs : List Char} (h : ∀ c ∈ cs, isDecimalDigit c = true) {c : Char}
    (hc : isDecimalDigit c = true) : IsDigits (cs ++ [c]) := by
  refine ⟨List.append_ne_nil_of_right_ne_nil _ (List.cons_ne_nil _ _), ?_⟩
  exact List.forall_mem_append.mpr ⟨h, List.forall_mem_singleton.mpr hc⟩

theorem isDigits_takeWhile {cs : List Char} (h : cs.takeWhile isDecimalDigit ≠ []) :
    IsDigits (cs.takeWhile isDecimalDigit) :=
  ⟨h, fun _ hc ↦ List.mem_takeWhile_imp hc⟩

/-! ## Counts -/

/-- The longest count is read. -/
theorem countDigits?_of_isLongest {cs front : List Char} {negative : Bool} {digits : List Char}
    (h : IsLongest IsCount (trimLeft cs) front) (hspells : SpellsCount negative digits front) :
    countDigits? cs = some (negative, digits) := by
  cases hspells with | @mk sign _ hsign hdigits
  obtain ⟨rest, hrest⟩ := h.initial
  rw [← hrest] at h
  have hend : ∀ c ∈ rest.head?, ¬ isDecimalDigit c = true := by
    refine h.head?_of_form fun c hc ↦ ?_
    rw [List.append_assoc]
    exact ⟨negative, _, .mk hsign (.concat hdigits.2 hc)⟩
  unfold countDigits?
  rw [← hrest, List.append_assoc, takeSign_append hsign hdigits.head_ne]
  dsimp only
  rw [(takeWhile_append_of_head hdigits.2 hend).1, if_neg]
  exact mt List.isEmpty_iff.mp hdigits.1

/-- What is read is a count at the front. -/
theorem exists_isCount {cs : List Char} (h : countDigits? cs ≠ none) :
    ∃ front, front <+: trimLeft cs ∧ IsCount front := by
  obtain ⟨sign, hsign, hcs⟩ := exists_takeSign (trimLeft cs)
  unfold countDigits? at h
  dsimp only at h
  split at h
  · exact absurd rfl h
  · rename_i hdigits
    have hspells := SpellsCount.mk hsign (isDigits_takeWhile (mt List.isEmpty_iff.mpr hdigits))
    refine ⟨_, ?_, _, _, hspells⟩
    exact append_initial hcs (List.takeWhile_prefix _)

/-- No count is read exactly where none begins the text. -/
theorem countDigits?_eq_none_iff {cs : List Char} :
    countDigits? cs = none ↔ ∀ front, front <+: trimLeft cs → ¬ IsCount front := by
  constructor
  · intro hnone front hinitial hform
    obtain ⟨longest, hlongest⟩ := exists_isLongest hinitial hform
    obtain ⟨negative, digits, hspells⟩ := hlongest.form
    rw [countDigits?_of_isLongest hlongest hspells] at hnone
    cases hnone
  · intro h
    by_contra hread
    obtain ⟨front, hinitial, hform⟩ := exists_isCount hread
    exact h front hinitial hform

/-! ## Places -/

/-- The digits before and after the point end where the places end, if those cannot be extended. -/
theorem take_places {whole fraction places rest : List Char}
    (hplaces : SpellsPlaces whole fraction places)
    (hrest : ∀ c ∈ rest.head?, ¬ isDecimalDigit c = true)
    (hpoint : IsDigits places → '.' ∉ rest.head?) :
    (places ++ rest).takeWhile isDecimalDigit = whole ∧
      Numeral.takeFraction ((places ++ rest).dropWhile isDecimalDigit) = (fraction, rest) := by
  have hpointed {fraction : List Char} (hfraction : ∀ c ∈ fraction, isDecimalDigit c = true) :
      Numeral.takeFraction ('.' :: (fraction ++ rest)) = (fraction, rest) := by
    obtain ⟨htake, hdrop⟩ := takeWhile_append_of_head hfraction hrest
    rw [Numeral.takeFraction, htake, hdrop]
  have hstop (cs : List Char) : ∀ c ∈ ('.' :: cs).head?, ¬ isDecimalDigit c = true := by
    intro c hc
    obtain rfl := Option.some.inj hc
    decide
  cases hplaces with
  | whole hwhole =>
    obtain ⟨htake, hdrop⟩ := takeWhile_append_of_head hwhole.2 hrest
    rw [htake, hdrop]
    refine ⟨rfl, ?_⟩
    unfold Numeral.takeFraction
    split
    · exact absurd rfl (hpoint hwhole)
    · rfl
  | @pointed _ fraction hwhole hfraction =>
    obtain ⟨htake, hdrop⟩ := takeWhile_append_of_head hwhole.2 (hstop (fraction ++ rest))
    rw [List.append_assoc, List.cons_append, htake, hdrop]
    exact ⟨rfl, hpointed hfraction⟩
  | @fraction fraction hfraction =>
    obtain ⟨htake, hdrop⟩ := takeWhile_append_of_head (List.forall_mem_nil _)
      (hstop (fraction ++ rest))
    rw [List.nil_append] at htake hdrop
    rw [List.cons_append, htake, hdrop]
    exact ⟨rfl, hpointed hfraction.2⟩

/-- One more digit goes to the last of the two parts. -/
theorem SpellsPlaces.concat {whole fraction places : List Char} {c : Char}
    (h : SpellsPlaces whole fraction places) (hc : isDecimalDigit c = true) :
    ∃ whole' fraction', SpellsPlaces whole' fraction' (places ++ [c]) := by
  cases h with
  | whole hwhole => exact ⟨_, _, .whole (.concat hwhole.2 hc)⟩
  | pointed hwhole hfraction =>
    rw [List.append_assoc, List.cons_append]
    exact ⟨_, _, .pointed hwhole (IsDigits.concat hfraction hc).2⟩
  | fraction hfraction => exact ⟨_, _, .fraction (.concat hfraction.2 hc)⟩

theorem SpellsPlaces.head_ne {whole fraction places rest : List Char}
    (h : SpellsPlaces whole fraction places) : ∀ c ∈ (places ++ rest).head?, c ≠ '-' ∧ c ≠ '+' := by
  cases h with
  | whole hwhole => exact hwhole.head_ne
  | pointed hwhole _ =>
    rw [List.append_assoc]
    exact hwhole.head_ne
  | fraction _ =>
    intro c hc
    obtain rfl := Option.some.inj hc
    decide

/-- There is a digit before the point or after it. -/
theorem SpellsPlaces.digits_ne_nil {whole fraction places : List Char}
    (h : SpellsPlaces whole fraction places) : whole ≠ [] ∨ fraction ≠ [] := by
  cases h with
  | whole hwhole => exact .inl hwhole.1
  | pointed hwhole _ => exact .inl hwhole.1
  | fraction hfraction => exact .inr hfraction.1

/-! ## Exponents -/

def IsPower (cs : List Char) : Prop :=
  ∃ power, SpellsPower power cs

theorem SpellsPower.head_ne {power : ℤ} {exponent rest : List Char} (h : SpellsPower power exponent)
    (hne : exponent ≠ []) :
    ∀ c ∈ (exponent ++ rest).head?, ¬ isDecimalDigit c = true ∧ c ≠ '.' := by
  cases h with
  | none => exact absurd rfl hne
  | @some letter _ _ _ hletter _ _ =>
    intro c hc
    obtain rfl := Option.some.inj hc
    have hletters : ∀ letter ∈ ['e', 'E'], ¬ isDecimalDigit letter = true ∧ letter ≠ '.' :=
      List.forall_iff_forall_mem.mp (by decide)
    exact hletters letter hletter

/-- The longest exponent is read, and a letter without digits after it is none. -/
theorem takeExponent_of_isLongest {power : ℤ} {exponent rest : List Char}
    (h : IsLongest IsPower (exponent ++ rest) exponent) (hspells : SpellsPower power exponent) :
    signedValue (Numeral.takeExponent (exponent ++ rest)).1
      (digitsValue (Numeral.takeExponent (exponent ++ rest)).2) = power := by
  cases hspells with
  | @some letter negative sign digits hletter hsign hdigits =>
    have hend : ∀ c ∈ rest.head?, ¬ isDecimalDigit c = true := by
      refine h.head?_of_form fun c hc ↦ ?_
      rw [List.cons_append, List.append_assoc]
      exact ⟨_, .some hletter hsign (.concat hdigits.2 hc)⟩
    have hexponent : letter = 'e' ∨ letter = 'E' := by simpa using hletter
    rw [List.cons_append, List.append_assoc, Numeral.takeExponent, if_pos hexponent,
      takeSign_append hsign hdigits.head_ne]
    dsimp only
    rw [(takeWhile_append_of_head hdigits.2 hend).1]
  | none =>
    rw [List.nil_append] at h ⊢
    unfold Numeral.takeExponent
    split
    · rename_i letter rest
      split
      · rename_i hexponent
        obtain ⟨sign, hsign, hcs⟩ := exists_takeSign rest
        have hnone : (Numeral.takeSign rest).2.takeWhile isDecimalDigit = [] := by
          by_contra hdigits
          have hletter : letter ∈ ['e', 'E'] := by simpa using hexponent
          have hform : IsPower (letter :: (sign ++ _)) :=
            ⟨_, .some hletter hsign (isDigits_takeWhile hdigits)⟩
          have hinitial : letter :: (sign ++ (Numeral.takeSign rest).2.takeWhile isDecimalDigit) <+:
              letter :: rest := by
            rw [List.prefix_cons_inj]
            exact append_initial hcs (List.takeWhile_prefix _)
          exact absurd (h.longest _ hinitial hform) (Nat.not_succ_le_zero _)
        dsimp only
        rw [hnone, digitsValue_nil]
        cases (Numeral.takeSign rest).1 <;> rfl
      · rfl
    · rfl

/-! ## Numerals -/

theorem isDecimal_of_places {negative : Bool} {sign whole fraction places : List Char}
    (hsign : SpellsSign negative sign) (hplaces : SpellsPlaces whole fraction places) :
    IsDecimal (sign ++ places) := by
  rw [← List.append_nil places]
  exact ⟨_, _, _, .mk hsign hplaces .none⟩

/-- The longest numeral is read. -/
theorem read?_of_isLongest {cs front : List Char} {negative : Bool} {digits : Nat} {exponent : ℤ}
    (h : IsLongest IsDecimal (trimLeft cs) front)
    (hspells : SpellsDecimal negative digits exponent front) :
    (Numeral.read? cs).map Numeral.toDouble =
      some (Double.ofDecimal negative digits exponent) := by
  cases hspells with | @mk sign whole fraction places exponent power hsign hplaces hpower
  obtain ⟨rest, hrest⟩ := h.initial
  rw [← hrest] at h
  have hlongest : IsLongest IsPower (exponent ++ rest) exponent := by
    refine ⟨List.prefix_append _ _, ⟨power, hpower⟩, fun other hother ⟨power', hpower'⟩ ↦ ?_⟩
    have hinitial : sign ++ (places ++ other) <+: sign ++ (places ++ exponent) ++ rest := by
      rw [List.append_assoc, List.append_assoc, List.prefix_append_right_inj,
        List.prefix_append_right_inj]
      exact hother
    have hle := h.longest _ hinitial ⟨_, _, _, .mk hsign hplaces hpower'⟩
    simp only [List.length_append] at hle
    omega
  have hend : ∀ c ∈ (exponent ++ rest).head?, ¬ isDecimalDigit c = true := by
    by_cases hexponent : exponent = []
    · subst hexponent
      refine h.head?_of_form fun c hc ↦ ?_
      obtain ⟨whole', fraction', hplaces'⟩ := hplaces.concat hc
      rw [List.append_nil, List.append_assoc]
      exact isDecimal_of_places hsign hplaces'
    · exact fun c hc ↦ (hpower.head_ne hexponent c hc).1
  have hpoint : IsDigits places → '.' ∉ (exponent ++ rest).head? := by
    intro hdigits hhead
    by_cases hexponent : exponent = []
    · subst hexponent
      refine h.head?_of_form (P := fun c ↦ c = '.') (fun c hc ↦ ?_) '.' hhead rfl
      rw [hc, List.append_nil, List.append_assoc]
      exact isDecimal_of_places hsign (.pointed hdigits (List.forall_mem_nil _))
    · exact (hpower.head_ne hexponent '.' hhead).2 rfl
  obtain ⟨hwhole, hfraction⟩ := take_places hplaces hend hpoint
  have hdigits : ¬ (whole.isEmpty && fraction.isEmpty) = true := by
    rw [Bool.and_eq_true, List.isEmpty_iff, List.isEmpty_iff]
    rintro ⟨hnil, hnil'⟩
    exact hplaces.digits_ne_nil.elim (absurd hnil) (absurd hnil')
  unfold Numeral.read?
  rw [← hrest, List.append_assoc, List.append_assoc, takeSign_append hsign hplaces.head_ne]
  dsimp only
  rw [hwhole, hfraction]
  dsimp only
  rw [if_neg hdigits, Option.map_some, Numeral.toDouble]
  dsimp only
  rw [takeExponent_of_isLongest hlongest hpower]

/-- Without an exponent, what is read is a numeral at the front. -/
theorem exists_isDecimal {cs : List Char} (h : Numeral.read? cs ≠ none) :
    ∃ front, front <+: trimLeft cs ∧ IsDecimal front := by
  obtain ⟨sign, hsign, hcs⟩ := exists_takeSign (trimLeft cs)
  have hexists {whole fraction places : List Char} (hplaces : SpellsPlaces whole fraction places)
      (hinitial : places <+: (Numeral.takeSign (trimLeft cs)).2) :
      ∃ front, front <+: trimLeft cs ∧ IsDecimal front :=
    ⟨_, append_initial hcs hinitial, isDecimal_of_places hsign hplaces⟩
  unfold Numeral.read? at h
  dsimp only at h
  generalize (Numeral.takeSign (trimLeft cs)).2 = body at h hexists
  have hbody : body.takeWhile isDecimalDigit ++ body.dropWhile isDecimalDigit = body :=
    List.takeWhile_append_dropWhile
  by_cases hwhole : body.takeWhile isDecimalDigit = []
  · rw [hwhole, List.nil_append] at hbody
    rw [hwhole, hbody] at h
    unfold Numeral.takeFraction at h
    split at h
    · rename_i rest
      have hfraction : rest.takeWhile isDecimalDigit ≠ [] := by
        intro hnil
        rw [hnil] at h
        exact h rfl
      refine hexists (.fraction (isDigits_takeWhile hfraction)) ?_
      rw [List.prefix_cons_inj]
      exact List.takeWhile_prefix _
    · exact absurd rfl h
  · exact hexists (.whole (isDigits_takeWhile hwhole)) (List.takeWhile_prefix _)

/-- No number is read exactly where no decimal begins the text. -/
theorem read?_eq_none_iff {cs : List Char} :
    Numeral.read? cs = none ↔ ∀ front, front <+: trimLeft cs → ¬ IsDecimal front := by
  constructor
  · intro hnone front hinitial hform
    obtain ⟨longest, hlongest⟩ := exists_isLongest hinitial hform
    obtain ⟨negative, digits, exponent, hspells⟩ := hlongest.form
    have hread := read?_of_isLongest hlongest hspells
    rw [hnone] at hread
    cases hread
  · intro h
    by_contra hread
    obtain ⟨front, hinitial, hform⟩ := exists_isDecimal hread
    exact h front hinitial hform

end Tag

end Schematic
