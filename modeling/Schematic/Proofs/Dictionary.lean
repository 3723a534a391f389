import Mathlib.Data.List.Forall2
import Mathlib.Data.List.Induction
import Mathlib.Data.List.Nodup
import Schematic.Dict

/-!
# Keys and entries of dictionaries

Setting keys never repeats one, so the keys of a dictionary laid out from a list are
distinct, and a list whose keys are distinct is its own dictionary. Looking up and
membership agree wherever keys are distinct. Dictionaries of the same keys are compared
entry by entry, as lists are.
-/

namespace Schematic

/-! ## Lists entry by entry -/

section

variable {α β γ : Type} {R : α → β → Prop} {xs : List α} {ys : List β}

/-- Lists that are related entry by entry have equal images under matching functions. -/
theorem map_eq_of_forall₂ {f : α → γ} {g : β → γ} (h : List.Forall₂ R xs ys)
    (heq : ∀ x y, R x y → g y = f x) : ys.map g = xs.map f := by
  induction h with
  | nil => rfl
  | cons hfirst _ ih => rw [List.map_cons, List.map_cons, heq _ _ hfirst, ih]

theorem findSome?_eq_of_forall₂ {f : α → Option γ} {g : β → Option γ} (h : List.Forall₂ R xs ys)
    (heq : ∀ x y, R x y → g y = f x) : ys.findSome? g = xs.findSome? f := by
  simpa only [List.findSome?_map, Function.id_comp] using
    congrArg (List.findSome? id) (map_eq_of_forall₂ h heq)

theorem flatMap_eq_of_forall₂ {f : α → List γ} {g : β → List γ} (h : List.Forall₂ R xs ys)
    (heq : ∀ x y, R x y → g y = f x) : ys.flatMap g = xs.flatMap f := by
  rw [List.flatMap, List.flatMap, map_eq_of_forall₂ h heq]

theorem filterMap_eq_of_forall₂ {f : α → Option γ} {g : β → Option γ} (h : List.Forall₂ R xs ys)
    (heq : ∀ x y, R x y → g y = f x) : ys.filterMap g = xs.filterMap f := by
  simpa only [List.filterMap_map, Function.id_comp] using
    congrArg (List.filterMap id) (map_eq_of_forall₂ h heq)

/-- Filters that keep matching entries keep the relation. -/
theorem forall₂_filter {keep : α → Bool} {keep' : β → Bool}
    (h : List.Forall₂ (fun x y ↦ keep' y = keep x ∧ (keep x = true → R x y)) xs ys) :
    List.Forall₂ R (xs.filter keep) (ys.filter keep') := by
  induction h with
  | nil => exact .nil
  | cons hfirst hrest ih =>
    rw [List.filter_cons, List.filter_cons, hfirst.1]
    split
    · rename_i hkept
      exact .cons (hfirst.2 hkept) ih
    · exact ih

end

namespace Dict

variable {α : Type}

/-- A key is looked up in vain if it is not there. -/
theorem get?_eq_none_iff {key : String} {d : Dict α} : get? key d = none ↔ key ∉ keys d := by
  induction d with
  | nil => simp [get?, keys]
  | cons entry rest ih =>
    obtain ⟨k, v⟩ := entry
    simp only [keys] at ih
    by_cases hk : k = key
    · simp [get?, keys, hk]
    · simp [get?, keys, hk, ih, Ne.symm hk]

/-- A key is contained if it is one of the keys. -/
theorem contains_iff_mem_keys {key : String} {d : Dict α} :
    contains key d = true ↔ key ∈ keys d := by
  rw [contains, ← Option.ne_none_iff_isSome, Ne, get?_eq_none_iff, not_not]

theorem mem_of_get?_eq_some {key : String} {value : α} {d : Dict α}
    (h : get? key d = some value) : (key, value) ∈ d := by
  induction d with
  | nil => simp [get?] at h
  | cons entry rest ih =>
    obtain ⟨k, v⟩ := entry
    by_cases hk : k = key
    · simp_all [get?]
    · rw [get?, if_neg hk] at h
      exact List.mem_cons_of_mem _ (ih h)

theorem mem_keys_of_get?_eq_some {key : String} {value : α} {d : Dict α}
    (h : get? key d = some value) : key ∈ keys d :=
  List.mem_map_of_mem (mem_of_get?_eq_some h)

/-- With distinct keys each entry is found under its key. -/
theorem get?_eq_some_of_mem {key : String} {value : α} {d : Dict α} (hd : (keys d).Nodup)
    (h : (key, value) ∈ d) : get? key d = some value := by
  induction d with
  | nil => simp at h
  | cons entry rest ih =>
    obtain ⟨k, v⟩ := entry
    rw [keys, List.map_cons, List.nodup_cons] at hd
    rcases List.mem_cons.mp h with heq | hrest
    · obtain ⟨rfl, rfl⟩ := Prod.mk.inj heq
      simp [get?]
    · have hkey : key ∈ rest.map Prod.fst := List.mem_map_of_mem hrest
      have hk : k ≠ key := fun heq ↦ hd.1 (heq ▸ hkey)
      rw [get?, if_neg hk]
      exact ih hd.2 hrest

theorem mem_keys_set {key other : String} {value : α} {d : Dict α} :
    other ∈ keys (set key value d) ↔ other = key ∨ other ∈ keys d := by
  rw [keys_set]
  split
  · rename_i hkey
    constructor
    · exact Or.inr
    · rintro (rfl | hother)
      · exact hkey
      · exact hother
  · rw [List.mem_append, List.mem_singleton, or_comm]

theorem nodup_keys_set {key : String} {value : α} {d : Dict α} (hd : (keys d).Nodup) :
    (keys (set key value d)).Nodup := by
  rw [keys_set]
  split
  · exact hd
  · rename_i hkey
    exact hd.append (List.nodup_singleton key) (by simpa using hkey)

theorem set_of_notMem {key : String} {value : α} {d : Dict α} (hkey : key ∉ keys d) :
    set key value d = d ++ [(key, value)] := by
  induction d with
  | nil => rfl
  | cons entry rest ih =>
    obtain ⟨k, v⟩ := entry
    rw [keys, List.map_cons, List.mem_cons, not_or] at hkey
    rw [set, if_neg (Ne.symm hkey.1), ih hkey.2, List.cons_append]

/-- Setting a key brings in no other entry. -/
theorem mem_of_mem_set {key : String} {value : α} {d : Dict α} {entry : String × α}
    (h : entry ∈ set key value d) : entry = (key, value) ∨ entry ∈ d := by
  induction d with
  | nil => simpa [set] using h
  | cons first rest ih =>
    obtain ⟨k, v⟩ := first
    by_cases hk : k = key
    · rw [set, if_pos hk, List.mem_cons, hk] at h
      exact h.imp_right (List.mem_cons_of_mem _)
    · rw [set, if_neg hk, List.mem_cons] at h
      rcases h with rfl | hrest
      · exact Or.inr List.mem_cons_self
      · exact (ih hrest).imp_right (List.mem_cons_of_mem _)

theorem get?_eq_some_iff_mem {key : String} {value : α} {d : Dict α} (hd : (keys d).Nodup) :
    get? key d = some value ↔ (key, value) ∈ d :=
  ⟨mem_of_get?_eq_some, get?_eq_some_of_mem hd⟩

/-- Looking up does not depend on the order of entries with distinct keys. -/
theorem get?_of_perm {d d' : Dict α} (h : d'.Perm d) (hd : (keys d).Nodup) (key : String) :
    get? key d' = get? key d := by
  have hd' : (keys d').Nodup := (h.map Prod.fst).nodup_iff.mpr hd
  ext value
  rw [get?_eq_some_iff_mem hd', get?_eq_some_iff_mem hd, h.mem_iff]

/-- Setting the value that a key has changes nothing. -/
theorem set_of_get?_eq_some {key : String} {value : α} {d : Dict α} (h : get? key d = some value) :
    set key value d = d := by
  induction d with
  | nil => simp [get?] at h
  | cons entry rest ih =>
    obtain ⟨k, v⟩ := entry
    rw [get?] at h
    rw [set]
    split at h
    · rename_i hk
      rw [if_pos hk, ← Option.some.inj h, hk]
    · rename_i hk
      rw [if_neg hk, ih h]

/-- With distinct keys a filter may be asked about the entry that is found. -/
theorem get?_filter (p : String → α → Bool) (key : String) {d : Dict α} (hd : (keys d).Nodup) :
    get? key (d.filter fun entry ↦ p entry.1 entry.2) = (get? key d).filter (p key) := by
  have hfilter : (keys (d.filter fun entry ↦ p entry.1 entry.2)).Nodup :=
    hd.sublist (List.filter_sublist.map Prod.fst)
  ext value
  rw [get?_eq_some_iff_mem hfilter, List.mem_filter, Option.filter_eq_some_iff,
    get?_eq_some_iff_mem hd]

theorem get?_filter_fst (p : String → Bool) (key : String) (d : Dict α) :
    get? key (d.filter fun entry ↦ p entry.1) = if p key then get? key d else none := by
  induction d with
  | nil => simp [get?]
  | cons entry rest ih =>
    obtain ⟨k, v⟩ := entry
    by_cases hk : k = key
    · subst hk
      cases hp : p k <;> simp [get?, hp, ih]
    · cases hp : p k <;> simp [get?, hp, hk, ih]

/-! ## Laying out a list -/

theorem nodup_keys_update {d : Dict α} (hd : (keys d).Nodup) (entries : List (String × α)) :
    (keys (update d entries)).Nodup := by
  induction entries generalizing d with
  | nil => exact hd
  | cons entry rest ih => exact ih (nodup_keys_set hd)

theorem mem_keys_update {key : String} {d : Dict α} {entries : List (String × α)} :
    key ∈ keys (update d entries) ↔ key ∈ keys d ∨ key ∈ entries.map Prod.fst := by
  induction entries generalizing d with
  | nil => simp [update]
  | cons entry rest ih =>
    change key ∈ keys (update (set entry.1 entry.2 d) rest) ↔ _
    rw [ih, mem_keys_set, List.map_cons, List.mem_cons]
    tauto

theorem mem_of_mem_update {d : Dict α} {entries : List (String × α)} {entry : String × α}
    (h : entry ∈ update d entries) : entry ∈ d ∨ entry ∈ entries := by
  induction entries generalizing d with
  | nil => exact Or.inl h
  | cons first rest ih =>
    rcases ih h with hset | hrest
    · rcases mem_of_mem_set hset with rfl | hd
      · exact Or.inr List.mem_cons_self
      · exact Or.inl hd
    · exact Or.inr (List.mem_cons_of_mem _ hrest)

/-- Laying out what a dictionary holds changes nothing. -/
theorem update_of_get? {d : Dict α} {entries : List (String × α)}
    (h : ∀ entry ∈ entries, get? entry.1 d = some entry.2) : update d entries = d := by
  induction entries with
  | nil => rfl
  | cons entry rest ih =>
    change update (set entry.1 entry.2 d) rest = d
    rw [set_of_get?_eq_some (h entry List.mem_cons_self)]
    exact ih fun other hother ↦ h other (List.mem_cons_of_mem _ hother)

theorem update_of_nodup {d : Dict α} {entries : List (String × α)}
    (h : (keys d ++ entries.map Prod.fst).Nodup) : update d entries = d ++ entries := by
  induction entries generalizing d with
  | nil => simp [update]
  | cons entry rest ih =>
    have hfresh : entry.1 ∉ keys d := fun hmem ↦
      (List.nodup_append.mp h).2.2 entry.1 hmem entry.1 (by simp) rfl
    have hset : set entry.1 entry.2 d = d ++ [entry] := set_of_notMem hfresh
    have hkeys : keys (set entry.1 entry.2 d) = keys d ++ [entry.1] := by simp [hset, keys]
    change update (set entry.1 entry.2 d) rest = _
    rw [ih (by rw [hkeys]; simpa using h), hset, List.append_assoc, List.singleton_append]

/-- Keys that are present keep their places, and new ones go to the end in their order. -/
theorem keys_update_of_nodup {d : Dict α} {entries : List (String × α)}
    (h : (entries.map Prod.fst).Nodup) :
    keys (update d entries) = keys d ++ (entries.map Prod.fst).filter (· ∉ keys d) := by
  induction entries generalizing d with
  | nil => simp [update]
  | cons entry rest ih =>
    obtain ⟨hfresh, hrest⟩ := List.nodup_cons.mp h
    change keys (update (set entry.1 entry.2 d) rest) = _
    have hother : (rest.map Prod.fst).filter (· ∉ keys (set entry.1 entry.2 d)) =
        (rest.map Prod.fst).filter (· ∉ keys d) := by
      refine List.filter_congr fun key hkey ↦ ?_
      have hne : key ≠ entry.1 := fun heq ↦ hfresh (heq ▸ hkey)
      simp [mem_keys_set, hne]
    rw [ih hrest, hother, keys_set, List.map_cons, List.filter_cons]
    by_cases hpresent : entry.1 ∈ keys d <;> simp [hpresent]

theorem nodup_keys_ofList (entries : List (String × α)) : (keys (ofList entries)).Nodup :=
  nodup_keys_update (d := []) List.nodup_nil entries

theorem mem_keys_ofList {key : String} {entries : List (String × α)} :
    key ∈ keys (ofList entries) ↔ key ∈ entries.map Prod.fst := by
  rw [ofList, mem_keys_update]
  simp [keys]

theorem mem_of_mem_ofList {entries : List (String × α)} {entry : String × α}
    (h : entry ∈ ofList entries) : entry ∈ entries :=
  (mem_of_mem_update h).resolve_left List.not_mem_nil

/-- Distinct keys keep every entry as it is. -/
theorem ofList_of_nodup {entries : List (String × α)} (h : (entries.map Prod.fst).Nodup) :
    ofList entries = entries :=
  update_of_nodup (by simpa [keys] using h)

/-! ## Looking up after laying out -/

theorem get?_update_of_nodup {key : String} {d : Dict α} {entries : List (String × α)}
    (h : (entries.map Prod.fst).Nodup) :
    get? key (update d entries) = (get? key entries).or (get? key d) := by
  induction entries generalizing d with
  | nil => rfl
  | cons entry rest ih =>
    obtain ⟨k, v⟩ := entry
    rw [List.map_cons, List.nodup_cons] at h
    change get? key (update (set k v d) rest) = _
    rw [ih h.2, get?_set, get?]
    by_cases hk : k = key
    · have hfresh : get? key rest = none := get?_eq_none_iff.mpr (hk ▸ h.1)
      simp [hk, hfresh]
    · simp [hk]

theorem get?_update {key : String} (d : Dict α) (entries : List (String × α)) :
    get? key (update d entries) = (get? key (ofList entries)).or (get? key d) := by
  induction entries generalizing d with
  | nil => rfl
  | cons entry rest ih =>
    change get? key (update (set entry.1 entry.2 d) rest) =
      (get? key (update (set entry.1 entry.2 []) rest)).or (get? key d)
    rw [ih, ih (set entry.1 entry.2 []), get?_set, get?_set, Option.or_assoc]
    split
    · rw [Option.some_or]
    · rw [get?, Option.none_or]

/-- In a dictionary that is laid out from a list, the last entry of a key decides. -/
theorem get?_ofList (entries : List (String × α)) (key : String) :
    get? key (ofList entries) = get? key entries.reverse := by
  induction entries using List.reverseRecOn with
  | nil => rfl
  | append_singleton entries entry ih =>
    have hset : ofList (entries ++ [entry]) = set entry.1 entry.2 (ofList entries) := by
      rw [ofList, update, List.foldl_append]
      rfl
    rw [hset, get?_set, ih, List.reverse_append]
    rfl

variable {β : Type}

/-- Of dictionaries that are laid over each other, the last one that has a key decides. -/
theorem get?_ofList_reverse_flatMap {key : String} (entries : β → List (String × α)) (layers : List β) :
    get? key (ofList (layers.reverse.flatMap entries)) =
      layers.findSome? fun layer ↦ get? key (ofList (entries layer)) := by
  induction layers with
  | nil => rfl
  | cons layer rest ih =>
    have hsplit : ofList ((layer :: rest).reverse.flatMap entries) =
        update (ofList (rest.reverse.flatMap entries)) (entries layer) := by
      rw [List.reverse_cons, List.flatMap_append, List.flatMap_singleton, ofList, update,
        List.foldl_append]
      rfl
    rw [hsplit, get?_update, ih, List.findSome?_cons]
    cases get? key (ofList (entries layer)) <;> rfl

theorem keys_map_snd (f : α → β) (d : Dict α) :
    keys (d.map fun entry ↦ (entry.1, f entry.2)) = keys d := by
  simp [keys, Function.comp_def]

theorem get?_map_snd (f : α → β) (d : Dict α) (key : String) :
    get? key (d.map fun entry ↦ (entry.1, f entry.2)) = (get? key d).map f := by
  induction d with
  | nil => rfl
  | cons entry rest ih =>
    rw [List.map_cons, get?, get?, ih]
    split <;> rfl

/-! ## Dictionaries entry by entry -/

/-- Dictionaries of the same keys in the same order, with values related under each key. -/
abbrev Related (R : String → α → β → Prop) (d : Dict α) (d' : Dict β) : Prop :=
  List.Forall₂ (fun entry entry' ↦ entry'.1 = entry.1 ∧ R entry.1 entry.2 entry'.2) d d'

namespace Related

variable {R : String → α → β → Prop} {d : Dict α} {d' : Dict β}

theorem keys_eq (h : Related R d d') : keys d' = keys d :=
  map_eq_of_forall₂ h fun _ _ hentry ↦ hentry.1

theorem get? (h : Related R d d') (key : String) :
    Option.Rel (R key) (Dict.get? key d) (Dict.get? key d') := by
  induction h with
  | nil => exact .none
  | @cons entry entry' _ _ hfirst _ ih =>
    obtain ⟨k, v⟩ := entry
    obtain ⟨k', v'⟩ := entry'
    obtain ⟨rfl, hvalue⟩ := hfirst
    rw [Dict.get?, Dict.get?]
    split
    · rename_i hkey
      exact .some (hkey ▸ hvalue)
    · exact ih

theorem set (h : Related R d d') {key : String} {value : α} {value' : β} (hvalue : R key value value') :
    Related R (Dict.set key value d) (Dict.set key value' d') := by
  induction h with
  | nil => exact .cons ⟨rfl, hvalue⟩ .nil
  | @cons entry entry' _ _ hfirst hrest ih =>
    obtain ⟨k, v⟩ := entry
    obtain ⟨k', v'⟩ := entry'
    obtain ⟨rfl, hold⟩ := hfirst
    rw [Dict.set, Dict.set]
    split
    · rename_i hkey
      exact .cons ⟨rfl, hkey ▸ hvalue⟩ hrest
    · exact .cons ⟨rfl, hold⟩ ih

theorem update (h : Related R d d') {entries : List (String × α)} {entries' : List (String × β)}
    (hentries : Related R entries entries') :
    Related R (Dict.update d entries) (Dict.update d' entries') := by
  induction hentries generalizing d d' with
  | nil => exact h
  | @cons entry entry' _ _ hfirst _ ih =>
    obtain ⟨k, v⟩ := entry
    obtain ⟨k', v'⟩ := entry'
    obtain ⟨rfl, hvalue⟩ := hfirst
    exact ih (h.set hvalue)

theorem ofList {entries : List (String × α)} {entries' : List (String × β)}
    (hentries : Related R entries entries') : Related R (Dict.ofList entries) (Dict.ofList entries') :=
  update .nil hentries

end Related

/-- The relation may take into account that the entries are there. -/
theorem Related.mem {R : String → α → β → Prop} {d : Dict α} {d' : Dict β} (h : Related R d d') :
    Related (fun key value value' ↦ R key value value' ∧ (key, value) ∈ d ∧ (key, value') ∈ d') d d' := by
  refine List.forall₂_iff_get.mpr ⟨h.length_eq, fun i hi hi' ↦ ?_⟩
  obtain ⟨hkey, hvalue⟩ := h.get hi hi'
  refine ⟨hkey, hvalue, List.get_mem _ _, ?_⟩
  rw [← hkey]
  exact List.get_mem _ _

/-- Where keys are distinct, the entries that stand opposite each other are those found under a key. -/
theorem Related.found {R : String → α → β → Prop} {d : Dict α} {d' : Dict β}
    (h : Related R d d') (hd : (keys d).Nodup) :
    Related (fun key value value' ↦
      R key value value' ∧ Dict.get? key d = some value ∧ Dict.get? key d' = some value') d d' := by
  have hd' : (keys d').Nodup := h.keys_eq ▸ hd
  refine h.mem.imp fun entry entry' hentry ↦ ?_
  obtain ⟨hkey, hvalue, hleft, hright⟩ := hentry
  exact ⟨hkey, hvalue, get?_eq_some_of_mem hd hleft, get?_eq_some_of_mem hd' hright⟩

theorem Related.map_snd {γ δ : Type} {R : String → α → β → Prop} {S : String → γ → δ → Prop}
    {d : Dict α} {d' : Dict β} (h : Related R d d') (f : α → γ) (g : β → δ)
    (hS : ∀ key value value', R key value value' → S key (f value) (g value')) :
    Related S (d.map fun entry ↦ (entry.1, f entry.2)) (d'.map fun entry ↦ (entry.1, g entry.2)) := by
  rw [Related, List.forall₂_map_left_iff, List.forall₂_map_right_iff]
  exact h.imp fun entry entry' hentry ↦ ⟨hentry.1, hS _ _ _ hentry.2⟩

theorem Related.symm {R : String → α → β → Prop} {S : String → β → α → Prop} {d : Dict α} {d' : Dict β}
    (h : Related R d d') (hS : ∀ key value value', R key value value' → S key value' value) :
    Related S d' d := by
  refine List.Forall₂.flip (h.imp fun entry entry' hentry ↦ ⟨hentry.1.symm, ?_⟩)
  rw [hentry.1]
  exact hS _ _ _ hentry.2

theorem Related.trans {γ : Type} {R : String → α → β → Prop} {S : String → β → γ → Prop}
    {T : String → α → γ → Prop} {d : Dict α} {d' : Dict β} {d'' : Dict γ} (h : Related R d d')
    (h' : Related S d' d'')
    (hT : ∀ key value value' value'', R key value value' → S key value' value'' → T key value value'') :
    Related T d d'' := by
  induction h generalizing d'' with
  | nil =>
    cases h'
    exact .nil
  | cons hentry _ ih =>
    cases h' with
    | cons hentry' hrest =>
      refine .cons ⟨hentry'.1.trans hentry.1, hT _ _ _ _ hentry.2 ?_⟩ (ih hrest)
      rw [← hentry.1]
      exact hentry'.2

theorem related_refl {R : String → α → α → Prop} (hR : ∀ key value, R key value value) (d : Dict α) :
    Related R d d :=
  List.forall₂_same.mpr fun entry _ ↦ ⟨rfl, hR entry.1 entry.2⟩

end Dict

end Schematic
