import Mathlib.Data.List.Induction
import SqlBuilder.Config

/-! # Sorted entries

Entries that come from pairs are in the order of their texts (`SortedEntries.isSorted_ofPairs`), and
sorted entries come from themselves (`SortedEntries.IsSorted.ofPairs_eq`). -/

namespace SqlBuilder

namespace SortedEntries

variable {α : Type} {entries : SortedEntries α} {key : String} {value : α} {pair : String × α}

/-- Whether entries are in the order of their texts, and no text is repeated. -/
def IsSorted (entries : SortedEntries α) : Prop := entries.Pairwise fun a b => a.1 < b.1

/-- What is there after a text was given a value was there before, or is the new entry. -/
theorem mem_of_mem_put (h : pair ∈ put key value entries) :
    pair = (key, value) ∨ pair ∈ entries := by
  induction entries with
  | nil => exact Or.inl (List.mem_singleton.1 h)
  | cons first rest ih =>
    obtain ⟨k, v⟩ := first
    rw [put] at h
    split at h
    · rcases List.mem_cons.1 h with h | h
      · exact Or.inl h
      · exact Or.inr (List.mem_cons_of_mem _ h)
    · split at h
      · exact List.mem_cons.1 h
      · rcases List.mem_cons.1 h with h | h
        · exact Or.inr (h ▸ List.mem_cons_self)
        · exact (ih h).imp_right (List.mem_cons_of_mem _)

/-- A new value keeps the order. -/
theorem IsSorted.put (h : IsSorted entries) (key : String) (value : α) :
    IsSorted (SortedEntries.put key value entries) := by
  induction entries with
  | nil => exact List.pairwise_singleton _ _
  | cons first rest ih =>
    obtain ⟨k, v⟩ := first
    obtain ⟨hfirst, hrest⟩ := List.pairwise_cons.1 h
    rw [SortedEntries.put]
    split
    · next heq => exact List.pairwise_cons.2 ⟨heq ▸ hfirst, hrest⟩
    · next hne =>
      -- The new entry goes in front of the first one, or into the rest behind it.
      split
      · next hlt =>
        refine List.pairwise_cons.2 ⟨fun other hother => ?_, h⟩
        rcases List.mem_cons.1 hother with rfl | hother
        · exact hlt
        · exact String.lt_trans hlt (hfirst other hother)
      · next hge =>
        refine List.pairwise_cons.2 ⟨fun other hother => ?_, ih hrest⟩
        rcases mem_of_mem_put hother with rfl | hother
        · exact Std.lt_of_le_of_ne (String.not_lt.1 hge) hne
        · exact hfirst other hother

/-- One more pair is put into the entries of the others. -/
theorem ofPairs_concat (pairs : List (String × α)) (pair : String × α) :
    ofPairs (pairs ++ [pair]) = put pair.1 pair.2 (ofPairs pairs) := by
  rw [ofPairs, List.foldl_append]
  rfl

/-- **Entries are sorted.** -/
theorem isSorted_ofPairs (pairs : List (String × α)) : IsSorted (ofPairs pairs) := by
  induction pairs using List.reverseRecOn with
  | nil => exact List.Pairwise.nil
  | append_singleton pairs pair ih =>
    rw [ofPairs_concat]
    exact ih.put pair.1 pair.2

/-- Entries are among the pairs that they come from. -/
theorem mem_of_mem_ofPairs {pairs : List (String × α)} (h : pair ∈ ofPairs pairs) :
    pair ∈ pairs := by
  induction pairs using List.reverseRecOn with
  | nil => cases h
  | append_singleton pairs last ih =>
    rw [ofPairs_concat] at h
    rcases mem_of_mem_put h with rfl | h
    · exact List.mem_append_right _ (List.mem_singleton.2 rfl)
    · exact List.mem_append_left _ (ih h)

/-- A text behind all others goes to the end. -/
theorem put_of_forall_lt (h : ∀ pair ∈ entries, pair.1 < key) (value : α) :
    put key value entries = entries ++ [(key, value)] := by
  induction entries with
  | nil => rfl
  | cons first rest ih =>
    obtain ⟨k, v⟩ := first
    have hlt : k < key := h (k, v) List.mem_cons_self
    have hne : k ≠ key := fun heq => String.lt_irrefl key (heq ▸ hlt)
    rw [put, if_neg hne, if_neg (String.lt_asymm hlt),
      ih fun pair hpair => h pair (List.mem_cons_of_mem _ hpair), List.cons_append]

/-- **Sorted entries are put in as they are.** -/
theorem IsSorted.ofPairs_eq {pairs : List (String × α)} (h : IsSorted pairs) :
    ofPairs pairs = pairs := by
  induction pairs using List.reverseRecOn with
  | nil => rfl
  | append_singleton pairs pair ih =>
    obtain ⟨hpairs, -, hlast⟩ := List.pairwise_append.1 h
    rw [ofPairs_concat, ih hpairs]
    -- The last pair is behind all others, so it stays at the end.
    refine put_of_forall_lt (fun other hother => ?_) _
    exact hlast other hother pair (List.mem_singleton.2 rfl)

/-- No text of sorted entries is repeated. -/
theorem IsSorted.nodup (h : IsSorted entries) : (entries.map Prod.fst).Nodup := by
  refine List.pairwise_map.2 (h.imp ?_)
  rintro a b hlt heq
  exact String.lt_irrefl b.1 (heq ▸ hlt)

end SortedEntries

end SqlBuilder
