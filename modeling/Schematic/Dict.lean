/-!
# Ordered dictionaries

A dictionary is a list of keys with values in the order in which the keys were
first set. Setting a key that is present replaces its value and keeps its place;
a new key goes to the end.
-/

namespace Schematic

abbrev Dict (α : Type) := List (String × α)

namespace Dict

variable {α : Type}

def get? (key : String) : Dict α → Option α
  | [] => none
  | (k, v) :: rest => if k = key then some v else get? key rest

def contains (key : String) (d : Dict α) : Bool :=
  (get? key d).isSome

def set (key : String) (value : α) : Dict α → Dict α
  | [] => [(key, value)]
  | (k, v) :: rest => if k = key then (k, value) :: rest else (k, v) :: set key value rest

/-- Sets the entries one after the other. -/
def update (d : Dict α) (entries : List (String × α)) : Dict α :=
  entries.foldl (fun d entry => set entry.1 entry.2 d) d

/-- The dictionary of a list of entries: a repeated key has its first place and its last value. -/
def ofList (entries : List (String × α)) : Dict α :=
  update [] entries

def keys (d : Dict α) : List String :=
  d.map Prod.fst

theorem get?_set (key other : String) (value : α) (d : Dict α) :
    get? other (set key value d) = if key = other then some value else get? other d := by
  induction d with
  | nil => simp [set, get?]
  | cons entry rest ih =>
    obtain ⟨k, v⟩ := entry
    by_cases hk : k = key
    · subst hk
      by_cases ho : k = other <;> simp [set, get?, ho]
    · by_cases ho : k = other
      · subst ho
        simp [set, get?, hk, Ne.symm hk]
      · simp [set, get?, hk, ho, ih]

theorem get?_set_self (key : String) (value : α) (d : Dict α) :
    get? key (set key value d) = some value := by
  simp [get?_set]

/-- A key that is present keeps its place; a new one goes to the end. -/
theorem keys_set (key : String) (value : α) (d : Dict α) :
    keys (set key value d) = if key ∈ keys d then keys d else keys d ++ [key] := by
  induction d with
  | nil => simp [set, keys]
  | cons entry rest ih =>
    obtain ⟨k, v⟩ := entry
    by_cases hk : k = key
    · simp [set, keys, hk]
    · simp only [keys, set, hk, if_false, List.map_cons] at ih ⊢
      rw [ih]
      by_cases hm : key ∈ List.map Prod.fst rest <;> simp [hm, Ne.symm hk]

end Dict

end Schematic
