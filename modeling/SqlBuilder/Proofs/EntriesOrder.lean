import Mathlib.Data.List.Induction
import SqlBuilder.Entries

/-! # What entries keep of the pairs put into them

Entries that pairs are put into one after the other have each key once, where it first came, with
the value that it got last. -/

namespace SqlBuilder

/-! ## First occurrences -/

section

variable {α : Type} [BEq α] [LawfulBEq α]

/-- One more element is kept unless it occurred before. -/
theorem eraseDups_concat [DecidableEq α] (l : List α) (a : α) :
    (l ++ [a]).eraseDups = if a ∈ l then l.eraseDups else l.eraseDups ++ [a] := by
  rw [List.eraseDups_append, List.removeAll]
  by_cases h : a ∈ l <;> simp [h, List.eraseDups_cons]

/-- First occurrences are distinct. -/
theorem nodup_eraseDups (l : List α) : l.eraseDups.Nodup := by
  classical
  induction l using List.reverseRecOn with
  | nil => exact List.nodup_nil
  | append_singleton l a ih =>
    rw [eraseDups_concat]
    split
    · exact ih
    · next h =>
      refine List.nodup_append.2 ⟨ih, List.pairwise_singleton _ a, fun x hx y hy => ?_⟩
      obtain rfl := List.mem_singleton.1 hy
      exact ne_of_mem_of_not_mem (List.mem_eraseDups.1 hx) h

/-- Distinct elements are kept as they are. -/
theorem eraseDups_of_nodup {l : List α} (h : l.Nodup) : l.eraseDups = l := by
  classical
  induction l using List.reverseRecOn with
  | nil => rfl
  | append_singleton l a ih =>
    rw [List.nodup_append] at h
    rw [eraseDups_concat, if_neg fun hmem => h.2.2 a hmem a (by simp) rfl, ih h.1]

end

/-! ## Pairs with the same key -/

namespace Entries

variable {κ α : Type} [DecidableEq κ]

/-- The value that a key has in the last of the pairs that have it. -/
def lastValue (key : κ) (pairs : List (κ × α)) : Option α :=
  (pairs.reverse.find? fun pair => pair.1 = key).map Prod.snd

/-- No pairs give no value. -/
@[simp] theorem lastValue_nil (key : κ) : lastValue key ([] : List (κ × α)) = none := rfl

/-- The last pair decides if it has the key. -/
theorem lastValue_concat (key : κ) (pairs : List (κ × α)) (pair : κ × α) :
    lastValue key (pairs ++ [pair])
      = if pair.1 = key then some pair.2 else lastValue key pairs := by
  rw [lastValue, List.reverse_append, List.reverse_singleton, List.singleton_append,
    List.find?_cons]
  by_cases h : pair.1 = key <;> simp [h, lastValue]

/-- Values may be changed, each with its key, before or after the last one is taken. -/
theorem lastValue_map_of_key {β : Type} (f : κ → α → β) (key : κ) (pairs : List (κ × α)) :
    lastValue key (pairs.map fun pair => (pair.1, f pair.1 pair.2))
      = (lastValue key pairs).map (f key) := by
  induction pairs using List.reverseRecOn with
  | nil => rfl
  | append_singleton pairs pair ih =>
    rw [List.map_append, List.map_singleton, lastValue_concat, lastValue_concat, ih]
    by_cases h : pair.1 = key <;> simp [h]

/-- Values may be changed before or after the last one is taken. -/
theorem lastValue_map {β : Type} (f : α → β) (key : κ) (pairs : List (κ × α)) :
    lastValue key (pairs.map fun pair => (pair.1, f pair.2)) = (lastValue key pairs).map f :=
  lastValue_map_of_key (fun _ => f) key pairs

/-- One more pair is put into what the pairs before it left. -/
theorem ofPairs_concat (pairs : List (κ × α)) (pair : κ × α) :
    ofPairs (pairs ++ [pair]) = put pair.1 pair.2 (ofPairs pairs) := by
  rw [ofPairs, List.foldl_append]
  rfl

/-- **Each key stands once, where it first came.** -/
theorem keys_ofPairs (pairs : List (κ × α)) :
    (ofPairs pairs).keys = (pairs.map Prod.fst).eraseDups := by
  induction pairs using List.reverseRecOn with
  | nil => rfl
  | append_singleton pairs pair ih =>
    rw [ofPairs_concat, keys_put, ih, List.map_append, List.map_singleton, eraseDups_concat]
    simp only [List.mem_eraseDups]

/-- **Each key has the value that it got last.** -/
theorem find_ofPairs (key : κ) (pairs : List (κ × α)) :
    (ofPairs pairs).find key = lastValue key pairs := by
  induction pairs using List.reverseRecOn with
  | nil => rfl
  | append_singleton pairs pair ih =>
    rw [ofPairs_concat, lastValue_concat]
    by_cases h : pair.1 = key
    · subst h
      rw [find_put_self, if_pos rfl]
    · rw [find_put_of_ne (Ne.symm h), if_neg h, ih]

/-! ## What is kept -/

/-- An entry is the one that was put in, or it was there before. -/
theorem mem_of_mem_put {key : κ} {value : α} {entries : Entries κ α} {pair : κ × α}
    (h : pair ∈ put key value entries) : pair = (key, value) ∨ pair ∈ entries := by
  induction entries with
  | nil => exact Or.inl (List.mem_singleton.1 h)
  | cons first rest ih =>
    obtain ⟨k, v⟩ := first
    by_cases hk : k = key
    · rw [put, if_pos hk, hk] at h
      exact (List.mem_cons.1 h).imp_right (List.mem_cons_of_mem _)
    · rw [put, if_neg hk] at h
      rcases List.mem_cons.1 h with rfl | hrest
      · exact Or.inr (List.mem_cons_self ..)
      · exact (ih hrest).imp_right (List.mem_cons_of_mem _)

/-- The entries that pairs leave are among the pairs. -/
theorem mem_of_mem_ofPairs {pairs : List (κ × α)} {pair : κ × α} (h : pair ∈ ofPairs pairs) :
    pair ∈ pairs := by
  induction pairs using List.reverseRecOn with
  | nil => cases h
  | append_singleton pairs last ih =>
    rw [ofPairs_concat] at h
    rcases mem_of_mem_put h with rfl | hbefore
    · exact List.mem_append_right _ (List.mem_singleton_self _)
    · exact List.mem_append_left _ (ih hbefore)

/-- A value that is found is there under its key. -/
theorem mem_of_find {key : κ} {entries : Entries κ α} {value : α}
    (h : entries.find key = some value) : (key, value) ∈ entries := by
  induction entries with
  | nil => cases h
  | cons pair rest ih =>
    obtain ⟨k, v⟩ := pair
    rw [find] at h
    split at h
    · next heq =>
      obtain rfl := Option.some.inj h
      exact heq ▸ List.mem_cons_self
    · exact List.mem_cons_of_mem _ (ih h)

/-- The keys of the entries that pairs leave are distinct. -/
theorem nodup_ofPairs (pairs : List (κ × α)) : ((ofPairs pairs).map Prod.fst).Nodup := by
  have hkeys := keys_ofPairs pairs
  rw [keys] at hkeys
  rw [hkeys]
  exact nodup_eraseDups _

/-- Values may be turned into others before or after they are put in. -/
theorem put_map {β : Type} (f : α → β) (key : κ) (value : α) (entries : Entries κ α) :
    put key (f value) (entries.map fun pair => (pair.1, f pair.2))
      = (put key value entries).map fun pair => (pair.1, f pair.2) := by
  induction entries with
  | nil => rfl
  | cons first rest ih =>
    by_cases h : first.1 = key
    · simp [put, h]
    · simp [put, h, ih]

/-- Values may be turned into others before or after pairs are put in. -/
theorem ofPairs_map {β : Type} (f : α → β) (pairs : List (κ × α)) :
    ofPairs (pairs.map fun pair => (pair.1, f pair.2))
      = (ofPairs pairs).map fun pair => (pair.1, f pair.2) := by
  induction pairs using List.reverseRecOn with
  | nil => rfl
  | append_singleton pairs last ih =>
    rw [List.map_append, List.map_singleton, ofPairs_concat, ofPairs_concat, ih]
    exact put_map f _ _ _

/-! ## Distinct keys -/

/-- A pair whose key no other has gives the key its value. -/
theorem lastValue_of_mem {pairs : List (κ × α)} (hnodup : (pairs.map Prod.fst).Nodup)
    {pair : κ × α} (hmem : pair ∈ pairs) : lastValue pair.1 pairs = some pair.2 := by
  induction pairs using List.reverseRecOn with
  | nil => cases hmem
  | append_singleton pairs last ih =>
    rw [List.map_append, List.nodup_append] at hnodup
    rw [lastValue_concat]
    rcases List.mem_append.1 hmem with hpairs | hlast
    · have hne : pair.1 ≠ last.1 :=
        hnodup.2.2 pair.1 (List.mem_map_of_mem hpairs) last.1 (by simp)
      rw [if_neg (Ne.symm hne), ih hnodup.1 hpairs]
    · obtain rfl := List.mem_singleton.1 hlast
      rw [if_pos rfl]

/-- A key that is not there goes to the end. -/
theorem put_of_not_mem {key : κ} {entries : Entries κ α} (h : key ∉ entries.keys) (value : α) :
    put key value entries = entries ++ [(key, value)] := by
  induction entries with
  | nil => rfl
  | cons pair rest ih =>
    rw [keys, List.map_cons, List.mem_cons, not_or] at h
    rw [put, if_neg (Ne.symm h.1), ih h.2]
    rfl

/-- **Pairs with distinct keys are kept as they are.** -/
theorem ofPairs_of_nodup {pairs : List (κ × α)} (h : (pairs.map Prod.fst).Nodup) :
    ofPairs pairs = pairs := by
  induction pairs using List.reverseRecOn with
  | nil => rfl
  | append_singleton pairs pair ih =>
    rw [List.map_append, List.nodup_append] at h
    have hnot : pair.1 ∉ keys pairs := fun hmem => h.2.2 pair.1 hmem pair.1 (by simp) rfl
    rw [ofPairs_concat, ih h.1, put_of_not_mem hnot]

/-- Among distinct keys, a key has the value that stands with it. -/
theorem find_of_mem {entries : Entries κ α} (hnodup : (entries.map Prod.fst).Nodup)
    {pair : κ × α} (hmem : pair ∈ entries) : entries.find pair.1 = some pair.2 := by
  have h := find_ofPairs pair.1 entries
  rw [ofPairs_of_nodup hnodup, lastValue_of_mem hnodup hmem] at h
  exact h

end Entries

end SqlBuilder
