/-! # A memory of fixed size

A memo keeps values under keys.  Every key has one place, which it may share with others; what is
put there takes the place of what was there before, so the memo forgets, but never mistakes one key
for another. -/

namespace SqlBuilder.Pattern.Automaton

/-- Values under keys of a type. -/
structure Memo (κ : Type) where
  /-- What is kept at each place. -/
  places : Array (Option (κ × Nat))

namespace Memo

variable {κ : Type}

/-- An empty memo of so many places. -/
def ofSize (count : Nat) : Memo κ := ⟨Array.replicate count none⟩

/-- The place of a key with a hash. -/
def place (m : Memo κ) (hash : UInt64) : Nat := hash.toNat % m.places.size

/-- The value of a key, if it is not forgotten. -/
def find? [DecidableEq κ] (m : Memo κ) (hash : UInt64) (key : κ) : Option Nat :=
  match m.places[m.place hash]? with
  | some (some (other, value)) => if other = key then some value else none
  | _ => none

/-- Keep a value. -/
def put (m : Memo κ) (hash : UInt64) (key : κ) (value : Nat) : Memo κ :=
  ⟨m.places.setIfInBounds (m.place hash) (some (key, value))⟩

/-- A new memo has no values. -/
@[simp] theorem find?_ofSize [DecidableEq κ] (count : Nat) (hash : UInt64) (key : κ) :
    (ofSize count : Memo κ).find? hash key = none := by
  unfold find?
  split
  next other value h =>
    simp only [ofSize, Array.getElem?_replicate] at h
    split at h <;> simp at h
  next => rfl

end Memo

/-- The hash of some numbers. -/
def hashOf (numbers : List UInt64) : UInt64 :=
  numbers.foldl (fun hash n => (hash ^^^ n) * 1099511628211) 14695981039346656037

end SqlBuilder.Pattern.Automaton
