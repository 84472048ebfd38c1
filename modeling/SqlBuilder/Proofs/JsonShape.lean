import Mathlib.Data.List.Basic
import SqlBuilder.Json.Reading
import SqlBuilder.Proofs.Plain

/-! # The shape of written JSON values

The compact text of a JSON value is read with the shape of the value (`Json.ofText?_render`): every
value ends where its text does, whatever stands behind it, as long as that does not go on with a
number.  Only fractions are left out, as their digits depend on the rounding of binary numbers. -/

namespace SqlBuilder

/-! ## The shape of a value -/

/-- The shape of the text of a whole number. -/
def NumberSource.ofInt (n : Int) : NumberSource :=
  ⟨decide (n < 0), Nat.toDigits 10 n.natAbs, [], none, true⟩

/-- The shape of the text of a number; of a fraction only that it is a number. -/
def JsonNumber.toSource : JsonNumber → NumberSource
  | .natural n => .ofInt n.toNat
  | .negative n => .ofInt n.toInt
  | .fraction _ => .ofInt 0

/-- The piece of a string that a written character is. -/
def stringPiece (c : Char) : StringPiece :=
  if jsonEscape c = controlEscape c then .unit c.toNat else .char c

/-- The pieces of a written string. -/
def stringPieces (s : String) : List StringPiece := s.toList.map stringPiece

mutual

/-- **The shape of the text of a value.** -/
def Json.toSource : Json → JsonSource
  | .null => .null
  | .bool b => .bool b
  | .number n => .number n.toSource
  | .string s => .string (stringPieces s)
  | .array items => .array (Json.itemSources items)
  | .object members => .object (Json.memberSources members)
termination_by structural value => value

/-- The shapes of the items of an array. -/
def Json.itemSources : List Json → List JsonSource
  | [] => []
  | item :: rest => item.toSource :: Json.itemSources rest
termination_by structural items => items

/-- The shapes of the members of an object. -/
def Json.memberSources : List (String × Json) → List (List StringPiece × JsonSource)
  | [] => []
  | member :: rest => Json.memberSource member :: Json.memberSources rest
termination_by structural members => members

/-- The shape of a member. -/
def Json.memberSource : String × Json → List StringPiece × JsonSource
  | (key, value) => (stringPieces key, value.toSource)
termination_by structural member => member

end

namespace Json

theorem itemSources_eq (items : List Json) : itemSources items = items.map toSource := by
  induction items with
  | nil => rfl
  | cons item rest ih => rw [itemSources, ih, List.map_cons]

theorem memberSources_eq (members : List (String × Json)) :
    memberSources members = members.map fun m => (stringPieces m.1, m.2.toSource) := by
  induction members with
  | nil => rfl
  | cons member rest ih => rw [memberSources, ih, List.map_cons, memberSource]

theorem renderItems_eq (items : List Json) : renderItems items = items.map render := by
  induction items with
  | nil => rfl
  | cons item rest ih => rw [renderItems, ih, List.map_cons]

theorem renderMembers_eq (members : List (String × Json)) :
    renderMembers members = members.map fun m => (m.1, m.2.render) := by
  induction members with
  | nil => rfl
  | cons member rest ih => rw [renderMembers, ih, List.map_cons, renderMember]

/-- **A value that its text keeps.** Its numbers are whole, with a sign if they are negative, no key
of an object is repeated, and brackets nest at most `depth` deep. -/
inductive Writable : Nat → Json → Prop
  | null {depth : Nat} : Writable depth .null
  | bool {depth : Nat} (b : Bool) : Writable depth (.bool b)
  | natural {depth : Nat} (n : UInt64) : Writable depth (.number (.natural n))
  | negative {depth : Nat} {n : Int64} (h : n.toInt < 0) : Writable depth (.number (.negative n))
  | string {depth : Nat} (s : String) : Writable depth (.string s)
  | array {depth : Nat} {items : List Json} (hitems : ∀ item ∈ items, Writable depth item) :
    Writable (depth + 1) (.array items)
  | object {depth : Nat} {members : List (String × Json)} (hkeys : (members.map Prod.fst).Nodup)
    (hmembers : ∀ m ∈ members, Writable depth m.2) : Writable (depth + 1) (.object members)

end Json

namespace JsonSource

/-! ## Strings -/

/-- The digits of a control character are read. -/
theorem hexValue_digitChar : ∀ n < 16, hexValue n.digitChar = some n := by decide

/-- A short escape is read as its character. -/
theorem takeString_short {e c : Char} (h : shortEscape e = some c) (k : List Char) :
    takeString ('\\' :: e :: k) = (takeString k).map fun r => (.char c :: r.1, r.2) := by
  have hu : shortEscape 'u' = none := by decide
  rw [takeString, h]
  · cases takeString k <;> rfl
  · rintro a b c d rest rfl
    rw [hu] at h
    cases h

/-- An escaped unit is read as a unit. -/
theorem takeString_unit {a b c d : Char} {w x y z : Nat} (ha : hexValue a = some w)
    (hb : hexValue b = some x) (hc : hexValue c = some y) (hd : hexValue d = some z)
    (k : List Char) :
    takeString ('\\' :: 'u' :: a :: b :: c :: d :: k)
      = (takeString k).map fun r => (.unit (w * 4096 + x * 256 + y * 16 + z) :: r.1, r.2) := by
  rw [takeString, ha, hb, hc, hd]
  cases takeString k <;> rfl

/-- A character without an escape is read as itself. -/
theorem takeString_plain {c : Char} (hquote : c ≠ '"') (hescape : c ≠ '\\')
    (hcontrol : ¬ c.toNat < 32) (k : List Char) :
    takeString (c :: k) = (takeString k).map fun r => (.char c :: r.1, r.2) := by
  rw [takeString]
  · rw [if_neg (by simp [hescape, hcontrol])]
  · exact hquote
  · exact fun a b x y rest h _ => hescape h
  · exact fun e rest h _ => hescape h

/-- A written character is read as its piece. -/
theorem takeString_jsonEscape (c : Char) (k : List Char) :
    takeString (jsonEscape c ++ k)
      = (takeString k).map fun r => (stringPiece c :: r.1, r.2) := by
  -- A character has a short escape, or four hexadecimal digits, or stands for itself.
  by_cases hshort : c ∈ ['"', '\\', '\x08', '\x0c', '\n', '\r', '\t']
  · simp only [List.mem_cons, List.not_mem_nil, or_false] at hshort
    rcases hshort with rfl | rfl | rfl | rfl | rfl | rfl | rfl <;> exact takeString_short rfl k
  · simp only [List.mem_cons, List.not_mem_nil, or_false, not_or] at hshort
    obtain ⟨hquote, hback, hb, hf, hn, hr, ht⟩ := hshort
    by_cases hcontrol : c.toNat < 32
    · have hescape : jsonEscape c = controlEscape c := by
        rw [jsonEscape]
        simp [*]
      -- Control characters need the last two digits only.
      have hcode : 0 * 4096 + 0 * 256 + c.toNat / 16 * 16 + c.toNat % 16 = c.toNat := by omega
      rw [stringPiece, if_pos hescape, hescape, ← hcode]
      exact takeString_unit (by decide) (by decide) (hexValue_digitChar _ (by omega))
        (hexValue_digitChar _ (by omega)) k
    · have hescape : jsonEscape c = [c] := by
        rw [jsonEscape]
        simp [*]
      rw [stringPiece, if_neg (by simp [hescape, controlEscape]), hescape]
      exact takeString_plain hquote hback hcontrol k

/-- **A written string is read** up to its closing quote. -/
theorem takeString_flatMap (cs k : List Char) :
    takeString (cs.flatMap jsonEscape ++ '"' :: k) = some (cs.map stringPiece, k) := by
  induction cs with
  | nil => rfl
  | cons c rest ih =>
    rw [List.flatMap_cons, List.append_assoc, takeString_jsonEscape, ih]
    rfl

/-! ## Numbers -/

/-- A text that does not go on with a number. -/
def EndsNumber (k : List Char) : Prop :=
  ∀ c ∈ k.head?, c.isDigit = false ∧ c ≠ '.' ∧ c ≠ 'e' ∧ c ≠ 'E'

/-- Digits are read up to where the number ends. -/
theorem takeDigits_append {digits k : List Char} (hne : digits ≠ [])
    (hdigits : ∀ c ∈ digits, c.isDigit = true) (hk : EndsNumber k) :
    takeDigits (digits ++ k) = some (digits, k) := by
  have hstop : k.takeWhile Char.isDigit = [] ∧ k.dropWhile Char.isDigit = k := by
    cases k with
    | nil => exact ⟨rfl, rfl⟩
    | cons c rest =>
      have hc : ¬ c.isDigit = true := by simp [(hk c rfl).1]
      exact ⟨List.takeWhile_cons_of_neg hc, List.dropWhile_cons_of_neg hc⟩
  have htake : (digits ++ k).takeWhile Char.isDigit = digits := by
    rw [List.takeWhile_append_of_pos hdigits, hstop.1, List.append_nil]
  have hdrop : (digits ++ k).dropWhile Char.isDigit = k := by
    rw [List.dropWhile_append_of_pos hdigits, hstop.2]
  rw [takeDigits, htake, hdrop]
  exact if_neg (by simp [hne])

/-- The digits of a number start with a zero only if the number is zero. -/
theorem head?_toDigits {n : Nat} (h : 0 < n) : (Nat.toDigits 10 n).head? ≠ some '0' := by
  -- The first digit is that of a tenth of the number, until one digit is left.
  induction n using Nat.strongRecOn with
  | ind n ih =>
    by_cases hlt : n < 10
    · have hdigits : ∀ n < 10, 0 < n → n.digitChar ≠ '0' := by decide
      rw [Nat.toDigits_of_lt_base hlt]
      simpa using hdigits n hlt h
    · rw [Nat.toDigits_of_base_le (by omega) (by omega),
        List.head?_append_of_ne_nil _ Nat.toDigits_ne_nil]
      exact ih (n / 10) (by omega) (by omega)

/-- The digits of a number are read. -/
theorem takeWhole_toDigits (n : Nat) {k : List Char} (hk : EndsNumber k) :
    takeWhole (Nat.toDigits 10 n ++ k) = some (Nat.toDigits 10 n, k) := by
  have hdigits : ∀ c ∈ Nat.toDigits 10 n, c.isDigit = true :=
    fun _ => isDigit_of_mem_decimal
  rw [takeWhole, takeDigits_append Nat.toDigits_ne_nil hdigits hk]
  -- More than one digit is refused behind a zero.
  refine if_neg ?_
  rintro ⟨hzero, hlength⟩
  rcases Nat.eq_zero_or_pos n with rfl | hpos
  · exact hlength rfl
  · exact head?_toDigits hpos hzero

/-- No fraction and no exponent stand where a number ends. -/
theorem takeFraction_takePower_of_endsNumber {k : List Char} (hk : EndsNumber k) :
    takeFraction k = some ([], k) ∧ takePower k = some (none, k) := by
  cases k with
  | nil => exact ⟨rfl, rfl⟩
  | cons c rest =>
    obtain ⟨-, hpoint, he, hE⟩ := hk c rfl
    constructor
    · rw [takeFraction]
      rintro rest' heq
      exact hpoint (List.head_eq_of_cons_eq heq)
    · unfold takePower
      exact if_neg (by simp [he, hE])

/-- The characters of a written whole number. -/
theorem toList_toString_int (n : Int) :
    (toString n).toList = (if n < 0 then ['-'] else []) ++ Nat.toDigits 10 n.natAbs := by
  cases n with
  | ofNat m =>
    have htext : toString (Int.ofNat m) = toString m := rfl
    rw [htext, if_neg (by simp)]
    simp
  | negSucc m =>
    have htext : toString (Int.negSucc m) = "-" ++ toString (m + 1) := rfl
    rw [htext, if_pos (Int.negSucc_lt_zero m)]
    simp

/-- Digits start with a digit. -/
theorem exists_toDigits_eq_cons (n : Nat) :
    ∃ c cs, Nat.toDigits 10 n = c :: cs ∧ c.isDigit = true := by
  obtain ⟨c, cs, heq⟩ := List.exists_cons_of_ne_nil (Nat.toDigits_ne_nil (n := n) (b := 10))
  exact ⟨c, cs, heq, isDigit_of_mem_decimal (n := n) (by simp [heq])⟩

/-- A written whole number starts with a digit or a sign. -/
theorem exists_toString_eq_cons (n : Int) :
    ∃ c cs, (toString n).toList = c :: cs ∧ (c.isDigit = true ∨ c = '-') := by
  obtain ⟨c, cs, heq, hdigit⟩ := exists_toDigits_eq_cons n.natAbs
  rw [toList_toString_int, heq]
  split
  · exact ⟨'-', _, rfl, Or.inr rfl⟩
  · exact ⟨c, _, rfl, Or.inl hdigit⟩

/-- **A written whole number is read** up to where it ends. -/
theorem takeNumber_toString (n : Int) {k : List Char} (hk : EndsNumber k) :
    takeNumber ((toString n).toList ++ k) = some (.ofInt n, k) := by
  obtain ⟨hfraction, hpower⟩ := takeFraction_takePower_of_endsNumber hk
  have hwhole := takeWhole_toDigits n.natAbs hk
  rw [toList_toString_int, NumberSource.ofInt]
  by_cases hn : n < 0
  · rw [if_pos hn, List.singleton_append, List.cons_append, takeNumber, hwhole]
    dsimp only [bind, Option.bind]
    rw [hfraction]
    dsimp only
    rw [hpower, decide_eq_true hn]
    rfl
  · obtain ⟨c, cs, heq, hdigit⟩ := exists_toDigits_eq_cons n.natAbs
    rw [if_neg hn, List.nil_append, takeNumber, hwhole]
    · dsimp only [bind, Option.bind]
      rw [hfraction]
      dsimp only
      rw [hpower, decide_eq_false hn]
      rfl
    · rw [heq]
      rintro rest ⟨⟩
      exact absurd hdigit (by decide)

/-- Nothing is skipped in front of a character that is no blank. -/
theorem skipSpace_cons {c : Char} (h : isSpace c = false) (cs : List Char) :
    skipSpace (c :: cs) = c :: cs :=
  List.dropWhile_cons_of_neg (by simp [h])

/-- A number starts with no blank. -/
theorem isSpace_of_number {c : Char} (hc : c.isDigit = true ∨ c = '-') : isSpace c = false := by
  by_contra hblank
  simp only [isSpace, Bool.not_eq_false, Bool.or_eq_true, decide_eq_true_eq] at hblank
  rcases hblank with ((rfl | rfl) | rfl) | rfl <;> revert hc <;> decide

/-- A number starts with a digit or a sign, and with nothing else that a value starts with. -/
theorem takeValue_number {c : Char} (hc : c.isDigit = true ∨ c = '-') (fuel : Nat)
    (cs : List Char) :
    takeValue (fuel + 1) (c :: cs) = (takeNumber (c :: cs)).map fun r => (.number r.1, r.2) := by
  have hother : c ≠ '"' ∧ c ≠ '[' ∧ c ≠ '\x7b' ∧ c ≠ 'n' ∧ c ≠ 't' ∧ c ≠ 'f' := by
    refine ⟨?_, ?_, ?_, ?_, ?_, ?_⟩ <;> (rintro rfl; revert hc; decide)
  rw [takeValue, skipSpace_cons (isSpace_of_number hc)]
  split <;> simp_all

end JsonSource

/-! ## Values -/

namespace Json

open JsonSource

/-- **Whether the text of a value is read with the shape of the value**, whatever is behind it that
does not go on with a number. -/
def ReadsBack (v : Json) : Prop :=
  ∀ {fuel : Nat} {k : List Char}, 2 * v.render.toList.length ≤ fuel → EndsNumber k →
    takeValue fuel (v.render.toList ++ k) = some (v.toSource, k)

/-- A member of an object as it is written. -/
def memberText (m : String × Json) : String := jsonString m.1 ++ ":" ++ m.2.render

/-- The characters of a written member. -/
theorem toList_memberText (m : String × Json) :
    (memberText m).toList
      = '"' :: (m.1.toList.flatMap jsonEscape ++ '"' :: ':' :: m.2.render.toList) := by
  simp [memberText, jsonString]

/-- The characters of a written array. -/
theorem toList_render_array (items : List Json) :
    (Json.array items).render.toList
      = '[' :: ((",".intercalate (items.map render)).toList ++ [']']) := by
  rw [render, jsonArray, renderItems_eq, String.toList_append, String.toList_append]
  rfl

/-- The characters of a written object. -/
theorem toList_render_object (members : List (String × Json)) :
    (Json.object members).render.toList
      = '\x7b' :: ((",".intercalate (members.map memberText)).toList ++ ['\x7d']) := by
  rw [render, jsonObject, renderMembers_eq, String.toList_append, String.toList_append,
    List.map_map]
  rfl

/-- The first character of a value's text is no blank and closes nothing. -/
theorem Writable.exists_render_eq_cons {depth : Nat} {v : Json} (h : v.Writable depth) :
    ∃ c cs, v.render.toList = c :: cs ∧ isSpace c = false ∧ c ≠ ']' := by
  have hnumber : ∀ n : Int,
      ∃ c cs, (toString n).toList = c :: cs ∧ isSpace c = false ∧ c ≠ ']' := by
    intro n
    obtain ⟨c, cs, heq, hc⟩ := exists_toString_eq_cons n
    refine ⟨c, cs, heq, isSpace_of_number hc, ?_⟩
    rintro rfl
    revert hc
    decide
  cases h with
  | null => exact ⟨'n', _, rfl, by decide, by decide⟩
  | bool b =>
    cases b with
    | true => exact ⟨'t', _, rfl, by decide, by decide⟩
    | false => exact ⟨'f', _, rfl, by decide, by decide⟩
  | natural n => exact hnumber n.toNat
  | @negative _ n hn => exact hnumber n.toInt
  | string s => exact ⟨'"', _, String.toList_ofList, by decide, by decide⟩
  | array hitems => exact ⟨'[', _, toList_render_array _, by decide, by decide⟩
  | object hkeys hmembers => exact ⟨'\x7b', _, toList_render_object _, by decide, by decide⟩

/-- The items of an array are read up to its bracket. -/
theorem takeItems_render {items : List Json} (hne : items ≠ [])
    (hitems : ∀ item ∈ items, ReadsBack item) {fuel : Nat} {k : List Char}
    (hfuel : 2 * ((",".intercalate (items.map render)).toList.length + 1) ≤ fuel + 1) :
    takeItems fuel ((",".intercalate (items.map render)).toList ++ ']' :: k)
      = some (items.map toSource, k) := by
  -- An item ends at a comma or a bracket, which goes on with no number, and every step costs one
  -- fuel, of which each character has two.
  induction items generalizing fuel with
  | nil => exact absurd rfl hne
  | cons item rest ih =>
    obtain ⟨fuel, rfl⟩ : ∃ m, fuel = m + 1 := Nat.exists_eq_add_of_le' (by omega)
    have hitem : ReadsBack item := hitems item List.mem_cons_self
    cases rest with
    | nil =>
      have htext : ",".intercalate ([item].map render) = item.render := String.intercalate_singleton
      rw [htext] at hfuel ⊢
      rw [takeItems, hitem (by omega) (by simp [EndsNumber])]
      rfl
    | cons next rest =>
      have htext : (",".intercalate ((item :: next :: rest).map render)).toList
          = item.render.toList ++ ',' :: (",".intercalate ((next :: rest).map render)).toList := by
        simp [String.intercalate_cons_cons]
      rw [htext] at hfuel ⊢
      rw [List.length_append, List.length_cons] at hfuel
      have hothers := ih (by simp)
        (fun other hother => hitems other (List.mem_cons_of_mem _ hother))
        (show _ ≤ fuel + 1 by omega)
      rw [List.append_assoc, List.cons_append, takeItems, hitem (by omega) (by simp [EndsNumber])]
      show ((takeItems fuel _).bind fun r => some (item.toSource :: r.1, r.2)) = _
      rw [hothers]
      rfl

/-- A member is read, and the members behind it if a comma is there. -/
theorem takeMembers_memberText {m : String × Json} (hm : ReadsBack m.2) {fuel : Nat}
    (hfuel : 2 * (memberText m).toList.length ≤ fuel) (k : List Char) :
    takeMembers (fuel + 1) ((memberText m).toList ++ '\x7d' :: k)
        = some ([(stringPieces m.1, m.2.toSource)], k) ∧
      takeMembers (fuel + 1) ((memberText m).toList ++ ',' :: k)
        = (takeMembers fuel k).map fun r => ((stringPieces m.1, m.2.toSource) :: r.1, r.2) := by
  rw [toList_memberText] at hfuel ⊢
  rw [List.length_cons, List.length_append, List.length_cons, List.length_cons] at hfuel
  constructor
  -- The key and the value are read alike whatever is behind them.
  all_goals
    rw [List.cons_append, List.append_assoc, List.cons_append, List.cons_append, takeMembers]
    show Option.bind (takeString _) _ = _
    rw [takeString_flatMap]
    show Option.bind (takeValue fuel _) _ = _
    rw [hm (by omega) (by simp [EndsNumber])]
  · rfl
  · show Option.bind (takeMembers fuel k) _ = _
    cases takeMembers fuel k <;> rfl

/-- The members of an object are read up to its brace. -/
theorem takeMembers_render {members : List (String × Json)} (hne : members ≠ [])
    (hmembers : ∀ m ∈ members, ReadsBack m.2) {fuel : Nat} {k : List Char}
    (hfuel : 2 * ((",".intercalate (members.map memberText)).toList.length + 1) ≤ fuel + 1) :
    takeMembers fuel ((",".intercalate (members.map memberText)).toList ++ '\x7d' :: k)
      = some (members.map fun m => (stringPieces m.1, m.2.toSource), k) := by
  induction members generalizing fuel with
  | nil => exact absurd rfl hne
  | cons m rest ih =>
    obtain ⟨fuel, rfl⟩ : ∃ n, fuel = n + 1 := Nat.exists_eq_add_of_le' (by omega)
    have hm : ReadsBack m.2 := hmembers m List.mem_cons_self
    cases rest with
    | nil =>
      have htext : ",".intercalate ([m].map memberText) = memberText m :=
        String.intercalate_singleton
      rw [htext] at hfuel ⊢
      exact (takeMembers_memberText hm (by omega) k).1
    | cons next rest =>
      have htext : (",".intercalate ((m :: next :: rest).map memberText)).toList
          = (memberText m).toList
            ++ ',' :: (",".intercalate ((next :: rest).map memberText)).toList := by
        simp [String.intercalate_cons_cons]
      rw [htext] at hfuel ⊢
      rw [List.length_append, List.length_cons] at hfuel
      have hothers := ih (by simp)
        (fun other hother => hmembers other (List.mem_cons_of_mem _ hother))
        (show _ ≤ fuel + 1 by omega)
      rw [List.append_assoc, List.cons_append, (takeMembers_memberText hm (by omega) _).2, hothers]
      rfl

/-- Joined texts start with the first one. -/
theorem exists_intercalate_eq_append (separator first : String) (rest : List String) :
    ∃ tail, separator.intercalate (first :: rest) = first ++ tail := by
  cases rest with
  | nil => exact ⟨"", by rw [String.intercalate_singleton, String.append_empty]⟩
  | cons next rest =>
    rw [String.intercalate_cons_cons, String.append_assoc]
    exact ⟨_, rfl⟩

/-- The items of an array are taken behind its bracket. -/
theorem takeValue_array {c : Char} (hspace : isSpace c = false) (hclosing : c ≠ ']') (fuel : Nat)
    (cs : List Char) :
    takeValue (fuel + 1) ('[' :: c :: cs)
      = (takeItems fuel (c :: cs)).map fun r => (.array r.1, r.2) := by
  rw [takeValue, skipSpace_cons (by decide)]
  split
  case h_3 rest heq =>
    obtain rfl : c :: cs = rest := List.tail_eq_of_cons_eq heq
    rw [skipSpace_cons hspace]
    split
    · next heq => exact absurd (List.head_eq_of_cons_eq heq) hclosing
    · rfl
  -- The text starts with a bracket, and so it is nothing else.
  all_goals simp_all

/-- The text of a value is not empty, so some fuel is left when it is read. -/
theorem Writable.readsBack_of_succ {depth : Nat} {v : Json} (h : v.Writable depth)
    (hread : ∀ {fuel : Nat} {k : List Char}, 2 * v.render.toList.length ≤ fuel + 1 → EndsNumber k →
      takeValue (fuel + 1) (v.render.toList ++ k) = some (v.toSource, k)) : ReadsBack v := by
  intro fuel k hfuel hk
  obtain ⟨c, cs, heq, -⟩ := h.exists_render_eq_cons
  obtain ⟨fuel, rfl⟩ : ∃ n, fuel = n + 1 := by
    rw [heq, List.length_cons] at hfuel
    exact Nat.exists_eq_add_of_le' (by omega)
  exact hread hfuel hk

/-- A written whole number is read. -/
theorem takeValue_toString (i : Int) (fuel : Nat) {k : List Char} (hk : EndsNumber k) :
    takeValue (fuel + 1) ((toString i).toList ++ k) = some (.number (.ofInt i), k) := by
  obtain ⟨c, cs, heq, hc⟩ := exists_toString_eq_cons i
  have hread := takeNumber_toString i hk
  rw [heq, List.cons_append] at hread ⊢
  rw [takeValue_number hc, hread]
  rfl

/-- **A written value is read with its shape**, up to where its text ends. -/
theorem Writable.readsBack {depth : Nat} {v : Json} (h : v.Writable depth) : ReadsBack v := by
  induction h with
  | null => exact (Writable.null : Writable 0 .null).readsBack_of_succ fun _ _ => rfl
  | bool b =>
    refine (Writable.bool b : Writable 0 _).readsBack_of_succ fun _ _ => ?_
    cases b <;> rfl
  | natural n =>
    exact (Writable.natural n : Writable 0 _).readsBack_of_succ fun _ hk =>
      takeValue_toString n.toNat _ hk
  | @negative _ n hn =>
    exact (Writable.negative hn : Writable 0 _).readsBack_of_succ fun _ hk =>
      takeValue_toString n.toInt _ hk
  | string s =>
    refine (Writable.string s : Writable 0 _).readsBack_of_succ fun {fuel k} _ _ => ?_
    have htext : (Json.string s).render.toList = '"' :: (s.toList.flatMap jsonEscape ++ ['"']) :=
      String.toList_ofList
    rw [htext, List.cons_append, List.append_assoc, List.singleton_append]
    show Option.map _ (takeString _) = _
    rw [takeString_flatMap]
    rfl
  | @array depth items hitems ih =>
    refine (Writable.array hitems).readsBack_of_succ fun {fuel k} hfuel _ => ?_
    rw [toList_render_array] at hfuel ⊢
    rw [List.length_cons, List.length_append, List.length_singleton] at hfuel
    rw [List.cons_append, List.append_assoc, List.singleton_append, toSource, itemSources_eq]
    cases items with
    | nil => rfl
    | cons item rest =>
      have hread := takeItems_render (List.cons_ne_nil item rest) ih (k := k)
        (show _ ≤ fuel + 1 by omega)
      -- The first item tells that the array is not empty.
      obtain ⟨tail, htail⟩ :=
        exists_intercalate_eq_append "," item.render (rest.map render)
      obtain ⟨c, cs, heq, hspace, hclosing⟩ :=
        (hitems item List.mem_cons_self).exists_render_eq_cons
      rw [List.map_cons, htail, String.toList_append, heq, List.cons_append,
        List.cons_append] at hread ⊢
      rw [takeValue_array hspace hclosing, hread]
      rfl
  | @object depth members hkeys hmembers ih =>
    refine (Writable.object hkeys hmembers).readsBack_of_succ fun {fuel k} hfuel _ => ?_
    rw [toList_render_object] at hfuel ⊢
    rw [List.length_cons, List.length_append, List.length_singleton] at hfuel
    rw [List.cons_append, List.append_assoc, List.singleton_append, toSource, memberSources_eq]
    cases members with
    | nil => rfl
    | cons m rest =>
      have hread := takeMembers_render (List.cons_ne_nil m rest) ih (k := k)
        (show _ ≤ fuel + 1 by omega)
      obtain ⟨tail, htail⟩ :=
        exists_intercalate_eq_append "," (memberText m) (rest.map memberText)
      rw [List.map_cons, htail, String.toList_append, toList_memberText, List.cons_append,
        List.cons_append] at hread ⊢
      show Option.map _ (takeMembers fuel _) = _
      rw [hread]
      rfl

/-- **The text of a value has the shape of the value.** -/
theorem ofText?_render {depth : Nat} {v : Json} (h : v.Writable depth) :
    JsonSource.ofText? v.render = some v.toSource := by
  have hread : takeValue (2 * v.render.toList.length + 2) (v.render.toList ++ [])
      = some (v.toSource, []) := h.readsBack (by omega) (by simp [EndsNumber])
  rw [List.append_nil] at hread
  rw [JsonSource.ofText?, hread]
  rfl

end Json

end SqlBuilder
