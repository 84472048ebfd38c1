import SqlBuilder.Proofs.EntriesOrder
import SqlBuilder.Proofs.JsonShape

/-! # The meaning of written JSON values

What is read from the text of a value is the value (`Json.Writable.meaning_toSource`), and every
value that was read can be written, unless it holds a fraction (`Json.writable_of_meaning`). -/

namespace SqlBuilder

/-! ## Strings and numbers -/

/-- The piece of a written character means the character. -/
theorem stringMeaning_cons (c : Char) (pieces : List StringPiece) :
    stringMeaning (stringPiece c :: pieces) = (stringMeaning pieces).map (c :: ·) := by
  have hchar : c.toNat < 0xD800 ∨ 0xDFFF < c.toNat := by
    rcases c.valid with h | h
    · exact Or.inl h
    · exact Or.inr h.1
  rw [stringPiece]
  split
  · -- A unit that is a character is not half of one.
    rw [stringMeaning.eq_def]
    dsimp only
    rw [if_pos hchar, Char.ofNat_toNat]
  · rw [stringMeaning]

/-- **A written string means its text.** -/
@[simp] theorem stringText_stringPieces (s : String) : stringText (stringPieces s) = some s := by
  have hchars : ∀ cs : List Char, stringMeaning (cs.map stringPiece) = some cs := by
    intro cs
    induction cs with
    | nil => rfl
    | cons c rest ih =>
      rw [List.map_cons, stringMeaning_cons, ih]
      rfl
  rw [stringText, stringPieces, hchars, Option.map_some, String.ofList_toList]

/-- The digits of a whole number that fits in 64 bits mean the number. -/
theorem NumberSource.meaning_ofInt {n : Int} (h : n.natAbs ≤ significandBound) :
    (NumberSource.ofInt n).meaning
      = if 0 ≤ n then some (.natural (UInt64.ofNat n.natAbs))
        else if n.natAbs ≤ Nat.pow 2 63 then some (.negative (Int64.ofInt n))
        else some (.fraction (-(Float.ofNat n.natAbs))) := by
  have hwhole : Nat.ofDigitChars 10 (NumberSource.ofInt n).whole 0 = n.natAbs :=
    Nat.ofDigitChars_ten_toDigits
  have hisWhole : (NumberSource.ofInt n).isWhole = true := rfl
  have hnegative : (NumberSource.ofInt n).negative = decide (n < 0) := rfl
  rw [meaning, hwhole, if_pos ⟨hisWhole, h⟩, hnegative]
  by_cases hn : 0 ≤ n
  · have hsign : (!decide (n < 0)) = true := by simpa using hn
    rw [if_pos hsign, if_pos hn]
  · have hsign : ¬ (!decide (n < 0)) = true := by simpa using hn
    have hvalue : -(n.natAbs : Int) = n := by omega
    have hpos : 0 < n.natAbs := by omega
    rw [if_neg hsign, if_neg hn, hvalue]
    simp only [hpos, true_and]

/-- **A written number means the number**, if it is whole and has the sign that its form says. -/
theorem JsonNumber.meaning_natural (n : UInt64) :
    (JsonNumber.natural n).toSource.meaning = some (.natural n) := by
  have hlt : n.toNat < UInt64.size := n.toNat_lt
  rw [toSource, NumberSource.meaning_ofInt (by rw [significandBound]; omega), if_pos (by omega)]
  simp

theorem JsonNumber.meaning_negative {n : Int64} (h : n.toInt < 0) :
    (JsonNumber.negative n).toSource.meaning = some (.negative n) := by
  have hle : -(2 ^ 63 : Int) ≤ n.toInt := n.le_toInt
  have hbound : significandBound = 2 ^ 64 - 1 := by decide
  rw [toSource, NumberSource.meaning_ofInt (by omega), if_neg (by omega), if_pos (by
    show n.toInt.natAbs ≤ 2 ^ 63
    omega), Int64.ofInt_toInt]

/-- A number that was read has the sign that its form says. -/
theorem NumberSource.toInt_neg_of_meaning {source : NumberSource} {n : Int64}
    (h : source.meaning = some (.negative n)) : n.toInt < 0 := by
  rw [meaning] at h
  split at h
  · split at h
    · cases h
    · split at h
      · next hwhole =>
        -- Digits with a sign fit in 64 bits if they are at most 2 ^ 63, and zero is a fraction.
        obtain ⟨hpos, hle⟩ := hwhole
        have hle : Nat.ofDigitChars 10 source.whole 0 ≤ 2 ^ 63 := hle
        obtain rfl := JsonNumber.negative.inj (Option.some.inj h)
        rw [Int64.toInt_ofInt_of_le (by omega) (by omega)]
        omega
      · cases h
  · obtain ⟨x, -, hx⟩ := Option.map_eq_some_iff.1 h
    cases hx

/-! ## Values -/

namespace Json

open JsonSource

/-- The meanings of the shapes of items. -/
theorem itemMeanings_map {depth : Nat} {items : List Json}
    (h : ∀ item ∈ items, item.toSource.meaning depth = some item) :
    itemMeanings depth (items.map toSource) = some items := by
  induction items with
  | nil => rfl
  | cons item rest ih =>
    rw [List.map_cons, itemMeanings, h item List.mem_cons_self,
      ih fun other hother => h other (List.mem_cons_of_mem _ hother)]
    rfl

/-- The meanings of the shapes of members. -/
theorem memberMeanings_map {depth : Nat} {members : List (String × Json)}
    (h : ∀ m ∈ members, m.2.toSource.meaning depth = some m.2) :
    memberMeanings depth (members.map fun m => (stringPieces m.1, m.2.toSource))
      = some members := by
  induction members with
  | nil => rfl
  | cons m rest ih =>
    rw [List.map_cons, memberMeanings, memberMeaning, stringText_stringPieces,
      h m List.mem_cons_self, ih fun other hother => h other (List.mem_cons_of_mem _ hother)]
    rfl

/-- **What is read from the text of a value is the value.** -/
theorem Writable.meaning_toSource {depth : Nat} {v : Json} (h : v.Writable depth) :
    v.toSource.meaning depth = some v := by
  induction h with
  | null => rfl
  | bool b => rfl
  | natural n => rw [toSource, meaning, JsonNumber.meaning_natural, Option.map_some]
  | negative hn => rw [toSource, meaning, JsonNumber.meaning_negative hn, Option.map_some]
  | string s => rw [toSource, meaning, stringText_stringPieces, Option.map_some]
  | array hitems ih =>
    rw [toSource, meaning, itemSources_eq, if_neg (Nat.succ_ne_zero _), Nat.add_sub_cancel,
      itemMeanings_map ih, Option.map_some]
  | object hkeys hmembers ih =>
    rw [toSource, meaning, memberSources_eq, if_neg (Nat.succ_ne_zero _), Nat.add_sub_cancel,
      memberMeanings_map ih, Option.map_some, Entries.ofPairs_of_nodup hkeys]

/-- **A value without fractions.** -/
inductive IsExact : Json → Prop
  | null : IsExact .null
  | bool (b : Bool) : IsExact (.bool b)
  | natural (n : UInt64) : IsExact (.number (.natural n))
  | negative (n : Int64) : IsExact (.number (.negative n))
  | string (s : String) : IsExact (.string s)
  | array {items : List Json} (h : ∀ item ∈ items, IsExact item) : IsExact (.array items)
  | object {members : List (String × Json)} (h : ∀ m ∈ members, IsExact m.2) :
    IsExact (.object members)

mutual

/-- **A value that was read can be written** if it holds no fraction. -/
theorem writable_of_meaning : ∀ (source : JsonSource) {depth : Nat} {v : Json},
    source.meaning depth = some v → v.IsExact → v.Writable depth
  | .null, depth, v, h, _ => by
    obtain rfl := Option.some.inj h
    exact .null
  | .bool b, depth, v, h, _ => by
    obtain rfl := Option.some.inj h
    exact .bool b
  | .number n, depth, v, h, hexact => by
    rw [meaning] at h
    obtain ⟨number, hnumber, rfl⟩ := Option.map_eq_some_iff.1 h
    -- What is exact is no fraction.
    cases hexact with
    | natural n => exact .natural n
    | negative n => exact .negative (NumberSource.toInt_neg_of_meaning hnumber)
  | .string pieces, depth, v, h, _ => by
    rw [meaning] at h
    obtain ⟨s, -, rfl⟩ := Option.map_eq_some_iff.1 h
    exact .string s
  | .array items, depth, v, h, hexact => by
    rw [meaning] at h
    split at h
    · cases h
    · next hdepth =>
      obtain ⟨depth, rfl⟩ := Nat.exists_eq_succ_of_ne_zero hdepth
      obtain ⟨values, hvalues, rfl⟩ := Option.map_eq_some_iff.1 h
      cases hexact with
      | array hexact =>
        exact .array fun item hitem =>
          writable_of_itemMeanings items hvalues item hitem (hexact item hitem)
  | .object members, depth, v, h, hexact => by
    rw [meaning] at h
    split at h
    · cases h
    · next hdepth =>
      obtain ⟨depth, rfl⟩ := Nat.exists_eq_succ_of_ne_zero hdepth
      obtain ⟨values, hvalues, rfl⟩ := Option.map_eq_some_iff.1 h
      cases hexact with
      | object hexact =>
        -- Of the members with one key only the last is left.
        exact .object (Entries.nodup_ofPairs values) fun m hm =>
          writable_of_memberMeanings members hvalues m (Entries.mem_of_mem_ofPairs hm) (hexact m hm)
termination_by structural source => source

/-- The items that were read can be written. -/
theorem writable_of_itemMeanings : ∀ (items : List JsonSource) {depth : Nat} {values : List Json},
    itemMeanings depth items = some values →
      ∀ v ∈ values, v.IsExact → v.Writable depth
  | [], depth, values, h, v, hv, _ => by
    obtain rfl := Option.some.inj h
    cases hv
  | item :: rest, depth, values, h, v, hv, hexact => by
    rw [itemMeanings] at h
    obtain ⟨first, hfirst, h⟩ := Option.bind_eq_some_iff.1 h
    obtain ⟨others, hothers, h⟩ := Option.bind_eq_some_iff.1 h
    obtain rfl := Option.some.inj h
    rcases List.mem_cons.1 hv with rfl | hv
    · exact writable_of_meaning item hfirst hexact
    · exact writable_of_itemMeanings rest hothers v hv hexact
termination_by structural items => items

/-- The values of the members that were read can be written. -/
theorem writable_of_memberMeanings : ∀ (members : List (List StringPiece × JsonSource))
    {depth : Nat} {values : List (String × Json)}, memberMeanings depth members = some values →
      ∀ m ∈ values, m.2.IsExact → m.2.Writable depth
  | [], depth, values, h, m, hm, _ => by
    obtain rfl := Option.some.inj h
    cases hm
  | member :: rest, depth, values, h, m, hm, hexact => by
    rw [memberMeanings] at h
    obtain ⟨first, hfirst, h⟩ := Option.bind_eq_some_iff.1 h
    obtain ⟨others, hothers, h⟩ := Option.bind_eq_some_iff.1 h
    obtain rfl := Option.some.inj h
    rcases List.mem_cons.1 hm with rfl | hm
    · exact writable_of_memberMeaning member hfirst hexact
    · exact writable_of_memberMeanings rest hothers m hm hexact
termination_by structural members => members

/-- The value of a member that was read can be written. -/
theorem writable_of_memberMeaning : ∀ (member : List StringPiece × JsonSource) {depth : Nat}
    {m : String × Json}, memberMeaning depth member = some m → m.2.IsExact → m.2.Writable depth
  | (key, value), depth, m, h, hexact => by
    rw [memberMeaning] at h
    obtain ⟨name, -, h⟩ := Option.bind_eq_some_iff.1 h
    obtain ⟨v, hv, h⟩ := Option.bind_eq_some_iff.1 h
    obtain rfl := Option.some.inj h
    exact writable_of_meaning value hv hexact
termination_by structural member => member

end

end Json

end SqlBuilder
