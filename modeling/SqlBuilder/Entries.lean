/-! # Entries in order of insertion

An association list whose keys keep the order in which they first came: a new value for a key that
is there replaces the old one in place, a new key goes to the end. -/

namespace SqlBuilder

/-- Keys with values, in order. -/
abbrev Entries (κ : Type) (α : Type) : Type := List (κ × α)

namespace Entries

variable {κ α : Type} [DecidableEq κ]

/-- Give a key a value: in place if the key is there, at the end otherwise. -/
def put (key : κ) (value : α) : Entries κ α → Entries κ α
  | [] => [(key, value)]
  | (k, v) :: rest => if k = key then (k, value) :: rest else (k, v) :: put key value rest

/-- The value of a key. -/
def find (key : κ) : Entries κ α → Option α
  | [] => none
  | (k, v) :: rest => if k = key then some v else find key rest

/-- The keys in order. -/
def keys (entries : Entries κ α) : List κ := entries.map Prod.fst

/-- The entries that a sequence of pairs leaves, put in one after the other. -/
def ofPairs (pairs : List (κ × α)) : Entries κ α :=
  pairs.foldl (fun entries pair => put pair.1 pair.2 entries) []

@[simp] theorem put_nil (key : κ) (value : α) : put key value [] = [(key, value)] := rfl

@[simp] theorem find_nil (key : κ) : find key ([] : Entries κ α) = none := rfl

/-- A key that was just given a value has that value. -/
@[simp] theorem find_put_self (key : κ) (value : α) (entries : Entries κ α) :
    (put key value entries).find key = some value := by
  induction entries with
  | nil => simp [find]
  | cons pair rest ih =>
    obtain ⟨k, v⟩ := pair
    by_cases h : k = key
    · simp [put, find, h]
    · simp [put, find, h, ih]

/-- Other keys keep their values. -/
theorem find_put_of_ne {key other : κ} (h : other ≠ key) (value : α) (entries : Entries κ α) :
    (put key value entries).find other = entries.find other := by
  induction entries with
  | nil => simp [find, Ne.symm h]
  | cons pair rest ih =>
    obtain ⟨k, v⟩ := pair
    by_cases hk : k = key
    · subst hk
      simp [put, find, Ne.symm h]
    · by_cases ho : k = other
      · subst ho
        simp [put, find, h]
      · simp [put, find, hk, ho, ih]

/-- The keys after a key was given a value: the old keys, and the new one at the end if it was not
among them. -/
theorem keys_put (key : κ) (value : α) (entries : Entries κ α) :
    (put key value entries).keys =
      if key ∈ entries.keys then entries.keys else entries.keys ++ [key] := by
  induction entries with
  | nil => simp [keys]
  | cons pair rest ih =>
    obtain ⟨k, v⟩ := pair
    by_cases h : k = key
    · simp [put, keys, h]
    · simp only [keys] at ih
      by_cases hm : key ∈ rest.map Prod.fst
      · simp [put, keys, h, hm, ih]
      · simp [put, keys, h, hm, ih, Ne.symm h]

end Entries

end SqlBuilder
