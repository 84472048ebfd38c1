import Mathlib.Data.List.Nodup
import SqlBuilder.Proofs.JsonMeaning
import SqlBuilder.Proofs.SortedEntries

/-! # Reading the fields of written objects

A structure that is written as an object gets its fields from the members of the object
(`JsonSource.structure?_object`, `JsonSource.field_writtenFields`), maps get their entries
(`JsonSource.sorted?_object`), and canned rows are read column by column
(`JsonSource.rows?_toJson`).  What a map and the rows are when they were read is stated next to
that. -/

namespace SqlBuilder

/-! ## Sequences of results -/

/-- What follows a result that is there. -/
theorem bind_eq_of_eq_some {α β : Type} {x : Option α} {a : α} {f : α → Option β} {y : Option β}
    (hx : x = some a) (hf : f a = y) : (x >>= f) = y := by
  rw [hx]
  exact hf

/-- A sequence of results is there if each of them is. -/
theorem mapM_eq_some_map {α β γ : Type} {f : α → Option β} {g : γ → α} {h : γ → β} {l : List γ}
    (hf : ∀ c ∈ l, f (g c) = some (h c)) : (l.map g).mapM f = some (l.map h) := by
  induction l with
  | nil => rfl
  | cons c rest ih =>
    rw [List.map_cons, List.mapM_cons, hf c List.mem_cons_self,
      ih fun other hother => hf other (List.mem_cons_of_mem _ hother)]
    rfl

/-- Every result of a sequence is the result of an item. -/
theorem exists_of_mem_mapM {α β : Type} {f : α → Option β} {l : List α} {results : List β}
    (h : l.mapM f = some results) : ∀ b ∈ results, ∃ a ∈ l, f a = some b := by
  induction l generalizing results with
  | nil =>
    obtain rfl := Option.some.inj h
    simp
  | cons a rest ih =>
    rw [List.mapM_cons] at h
    obtain ⟨first, hfirst, h⟩ := Option.bind_eq_some_iff.1 h
    obtain ⟨others, hothers, h⟩ := Option.bind_eq_some_iff.1 h
    obtain rfl := Option.some.inj h
    intro b hb
    rcases List.mem_cons.1 hb with rfl | hb
    · exact ⟨a, List.mem_cons_self, hfirst⟩
    · obtain ⟨a', ha', hb⟩ := ih hothers b hb
      exact ⟨a', List.mem_cons_of_mem _ ha', hb⟩

namespace JsonSource

open Json

/-! ## The fields of a structure -/

variable {depth : Nat} {members : List (String × Json)} {names : List String}

/-- The members of a written object as the fields of a structure. -/
def writtenFields (members : List (String × Json)) : List (String × JsonSource) :=
  members.map fun m => (m.1, m.2.toSource)

/-- No field is given twice by members with different keys. -/
theorem distinctFields_writtenFields (hkeys : (members.map Prod.fst).Nodup) :
    distinctFields names (writtenFields members) = true := by
  rw [distinctFields, List.all_eq_true]
  intro name _
  have hcount := List.nodup_iff_count_le_one.1 hkeys name
  rw [List.count_eq_length_filter, List.filter_map, List.length_map] at hcount
  rw [decide_eq_true_iff, writtenFields, List.filter_map, List.length_map]
  exact hcount

/-- **A written object gives its members** to a structure. -/
theorem structure?_object (hkeys : (members.map Prod.fst).Nodup) :
    (Json.object members).toSource.structure? (depth + 1) names = some (writtenFields members) := by
  have hfields : (Json.object members).toSource.fields names = some (writtenFields members) := by
    rw [toSource, fields, memberSources_eq]
    refine mapM_eq_some_map fun m _ => ?_
    rw [stringText_stringPieces]
    rfl
  rw [structure?, if_neg (Nat.succ_ne_zero _), hfields, Option.filter_some,
    distinctFields_writtenFields hkeys]
  rfl

/-- A field is read from the member that has its name. -/
theorem field_writtenFields {α : Type} (hkeys : (members.map Prod.fst).Nodup) {m : String × Json}
    (hm : m ∈ members) (default : α) (read : JsonSource → Option α) :
    field (writtenFields members) m.1 default read = read m.2.toSource := by
  have hfind : (writtenFields members).find? (fun g => g.1 == m.1) = some (m.1, m.2.toSource) := by
    induction members with
    | nil => cases hm
    | cons first rest ih =>
      -- No member in front of it has its key.
      obtain ⟨hfirst, hrest⟩ := List.nodup_cons.1 hkeys
      rw [writtenFields, List.map_cons]
      rcases List.mem_cons.1 hm with rfl | hm
      · exact List.find?_cons_of_pos (by simp)
      · have hne : first.1 ≠ m.1 := fun heq => hfirst (heq ▸ List.mem_map_of_mem hm)
        exact (List.find?_cons_of_neg (by simpa using hne)).trans (ih hrest hm)
  rw [field, hfind]

/-- A field that no member has is not given. -/
theorem field_of_not_mem {α : Type} {name : String} (h : name ∉ members.map Prod.fst) (default : α)
    (read : JsonSource → Option α) :
    field (writtenFields members) name default read = some default := by
  have hfind : (writtenFields members).find? (fun g => g.1 == name) = none := by
    rw [List.find?_eq_none]
    intro g hg
    obtain ⟨m, hm, rfl⟩ := List.mem_map.1 hg
    rw [beq_iff_eq]
    exact fun heq => h (heq ▸ List.mem_map_of_mem hm)
  rw [field, hfind]

/-- A value of a field that was read is its default, or was read from something. -/
theorem eq_default_or_exists_of_field {α : Type} {given : List (String × JsonSource)}
    {name : String} {default value : α} {read : JsonSource → Option α}
    (h : field given name default read = some value) :
    value = default ∨ ∃ source, read source = some value := by
  rw [field] at h
  split at h
  · exact Or.inr ⟨_, h⟩
  · exact Or.inl (Option.some.inj h).symm

/-- An optional text is read. -/
theorem optional?_text?_ofOption (s : Option String) :
    optional? text? (Json.ofOption s).toSource = some s := by
  cases s with
  | none => rfl
  | some s =>
    show (stringText (stringPieces s)).map some = some (some s)
    rw [stringText_stringPieces, Option.map_some]

/-! ## Maps and rows -/

/-- **Sorted entries are read** if their values are. -/
theorem sorted?_object {α : Type} {entries : SortedEntries α} (hsorted : entries.IsSorted)
    {write : α → Json} {read : JsonSource → Option α}
    (hread : ∀ entry ∈ entries, read (write entry.2).toSource = some entry.2) :
    sorted? (depth + 1) read (Json.object (entries.map fun e => (e.1, write e.2))).toSource
      = some entries := by
  have hpairs : (memberSources (entries.map fun e => (e.1, write e.2))).mapM (fun m => do
      let name ← stringText m.1
      let value ← read m.2
      return (name, value)) = some (entries.map id) := by
    rw [memberSources_eq, List.map_map]
    refine mapM_eq_some_map fun entry hentry => ?_
    show ((stringText (stringPieces entry.1)).bind fun name =>
      (read (write entry.2).toSource).bind fun value => some (name, value)) = some entry
    rw [stringText_stringPieces, hread entry hentry]
    rfl
  rw [toSource, sorted?, if_neg (Nat.succ_ne_zero _), hpairs, List.map_id, Option.map_some,
    hsorted.ofPairs_eq]

/-- Entries that were read are sorted, and their values were read. -/
theorem isSorted_of_sorted? {α : Type} {entries : SortedEntries α} {read : JsonSource → Option α}
    {source : JsonSource} (h : sorted? depth read source = some entries) :
    entries.IsSorted ∧ ∀ entry ∈ entries, ∃ source, read source = some entry.2 := by
  cases source with
  | object members =>
    rw [sorted?] at h
    split at h
    · cases h
    · obtain ⟨pairs, hpairs, rfl⟩ := Option.map_eq_some_iff.1 h
      -- Entries come from pairs, and each pair from a member.
      refine ⟨SortedEntries.isSorted_ofPairs pairs, fun entry hentry => ?_⟩
      obtain ⟨m, -, hm⟩ := exists_of_mem_mapM hpairs entry (SortedEntries.mem_of_mem_ofPairs hentry)
      obtain ⟨name, -, hm⟩ := Option.bind_eq_some_iff.1 hm
      obtain ⟨value, hvalue, hm⟩ := Option.bind_eq_some_iff.1 hm
      obtain rfl := Option.some.inj hm
      exact ⟨m.2, hvalue⟩
  | null | bool | number | string | array => cases h

/-- **Canned rows are read** if they can be written. -/
theorem rows?_toJson {rows : JsonRows} (h : ∀ row ∈ rows, (Json.object row).Writable depth) :
    rows? (depth + 1) (JsonRows.toJson rows).toSource = some rows := by
  rw [JsonRows.toJson, toSource, rows?, if_neg (Nat.succ_ne_zero _), itemSources_eq, List.map_map]
  refine (mapM_eq_some_map (h := id) fun row hrow => ?_).trans (congrArg some (List.map_id rows))
  rw [Nat.add_sub_cancel, Function.comp_apply, (h row hrow).meaning_toSource]
  rfl

/-- Canned rows that were read are objects that were read. -/
theorem exists_meaning_of_rows? {rows : JsonRows} {source : JsonSource}
    (h : rows? depth source = some rows) :
    ∀ row ∈ rows, ∃ item : JsonSource, item.meaning (depth - 1) = some (.object row) := by
  cases source with
  | array items =>
    rw [rows?] at h
    split at h
    · cases h
    · intro row hrow
      obtain ⟨item, -, hitem⟩ := exists_of_mem_mapM h row hrow
      refine ⟨item, ?_⟩
      split at hitem
      · next members hmeaning =>
        rw [hmeaning, Option.some.inj hitem]
      · cases hitem
  | null | bool | number | string | object => cases h

end JsonSource

end SqlBuilder
