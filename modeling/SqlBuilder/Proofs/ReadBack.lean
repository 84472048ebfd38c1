import SqlBuilder.Field.Validation

/-! # Reading accepted values back

A value that a field accepts is stored, and is read from a row later as the type that belongs to the
kind of the field (`FieldKind.rowType`).  Checking and reading follow the same rules for texts and
numbers, and for dates and times.  For truth values they do not: a field knows two words more than a
reader, and values with these words are the only ones that cannot be read back
(`Field.reads_back_iff`). -/

namespace SqlBuilder

/-- **The type as which the values of a kind of field are read** from a row. -/
def FieldKind.rowType : FieldKind → ScalarType
  | .char _ _ | .text | .email _ => .text
  | .integer _ => .int32
  | .bigInteger _ => .int64
  | .float _ => .float
  | .boolean => .bool
  | .dateTime _ _ => .timestamp

/-! ## What is checked and what is read -/

namespace Value

variable {v : Value}

/-- A value that is checked as a text is read as one. -/
theorem toText_of_textOf {s : String} (h : textOf v = .ok s) : v.toText = .ok s := by
  cases v with
  | text => exact congrArg Except.ok (Except.ok.inj h)
  | _ => cases h

/-- A value that is checked as an integer is read as the same one. -/
theorem toInt64_of_integerOf {n : Int64} (h : integerOf v = .ok n) : v.toInt64 = .ok n := by
  cases v with
  | int => exact congrArg Except.ok (Except.ok.inj h)
  | text s =>
    simp only [integerOf] at h
    simp only [toInt64]
    cases hread : Decimal.readInt64 (Text.trimChars s.toList) with
    | none =>
      rw [hread] at h
      cases h
    | some k =>
      rw [hread] at h
      exact congrArg Except.ok (Except.ok.inj h)
  | _ => cases h

/-- A value that is checked as an integer of 32 bits is read as the same one. -/
theorem toInt32_of_narrowed {n : Int64} (hn : integerOf v = .ok n) {k : Int32}
    (hk : narrowed n = .ok k) : v.toInt32 = .ok k := by
  rw [narrowed] at hk
  rw [toInt32, toInt64_of_integerOf hn]
  dsimp only [bind, Except.bind]
  by_cases hfits : Int32.minValue.toInt ≤ n.toInt ∧ n.toInt ≤ Int32.maxValue.toInt
  · rw [if_pos hfits] at hk ⊢
    exact congrArg Except.ok (Except.ok.inj hk)
  · rw [if_neg hfits] at hk
    cases hk

/-- A value that is checked as a fractional number is read as the same one. -/
theorem toFloat_of_floatOf {x : Float} (h : floatOf v = .ok x) : v.toFloat = .ok x := by
  cases v with
  | float => exact congrArg Except.ok (Except.ok.inj h)
  | int => exact congrArg Except.ok (Except.ok.inj h)
  | text s =>
    simp only [floatOf] at h
    simp only [toFloat]
    cases hread : Decimal.readFloat (Text.trimChars s.toList) with
    | none =>
      rw [hread] at h
      cases h
    | some y =>
      rw [hread] at h
      exact congrArg Except.ok (Except.ok.inj h)
  | _ => cases h

/-- A value that is checked as a date and time is read as one. -/
theorem exists_toTimestamp_of_checkDateTime (h : checkDateTime v = .ok ()) :
    ∃ t, v.toTimestamp = .ok t := by
  cases v with
  | timestamp t => exact ⟨t, rfl⟩
  | text s =>
    -- The form that is checked is the first that the reader tries.
    cases hread : Timestamp.ofText? s with
    | none =>
      simp only [checkDateTime, hread] at h
      cases h
    | some t =>
      refine ⟨t, ?_⟩
      rw [Timestamp.ofText?] at hread
      simp only [toTimestamp, Timestamp.ofAnyText?, hread]
      rfl
  | _ => cases h

end Value

/-! ## Truth values -/

namespace Value

/-- The lower-case words that say true or false to a field, but nothing to a reader. -/
def switchWords : List String := ["on", "off"]

/-- **Whether a value is a text with one of these words**, without regard to case. -/
def isSwitchWord : Value → Bool
  | .text s => switchWords.contains (Text.lower s)
  | _ => false

/-- Of the words that a field knows, a reader knows all but those of a switch. -/
theorem knows_iff_of_mem_truthWords {word : String} (h : word ∈ truthWords) :
    (word ∈ trueWords ∨ word ∈ falseWords) ↔ word ∉ switchWords := by
  simp only [truthWords, List.mem_cons, List.not_mem_nil, or_false] at h
  rcases h with rfl | rfl | rfl | rfl | rfl | rfl | rfl | rfl <;> decide

/-- A text is read as a truth value iff its word is known. -/
theorem exists_toBool_text_iff (s : String) :
    (∃ b, (text s).toBool = .ok b) ↔
      Text.lower s ∈ trueWords ∨ Text.lower s ∈ falseWords := by
  simp only [toBool, List.contains_eq_mem, decide_eq_true_eq]
  by_cases htrue : Text.lower s ∈ trueWords
  · rw [if_pos htrue]
    exact ⟨fun _ => Or.inl htrue, fun _ => ⟨true, rfl⟩⟩
  · rw [if_neg htrue]
    by_cases hfalse : Text.lower s ∈ falseWords
    · rw [if_pos hfalse]
      exact ⟨fun _ => Or.inr hfalse, fun _ => ⟨false, rfl⟩⟩
    · rw [if_neg hfalse]
      constructor
      · rintro ⟨b, hb⟩
        cases hb
      · rintro (h | h)
        · exact absurd h htrue
        · exact absurd h hfalse

/-- **A value that says true or false is read as a truth value** unless it is a word of a switch. -/
theorem exists_toBool_iff {v : Value} (h : saysTrueOrFalse v = true) :
    (∃ b, v.toBool = .ok b) ↔ v.isSwitchWord = false := by
  cases v with
  | bool b => exact ⟨fun _ => rfl, fun _ => ⟨b, rfl⟩⟩
  | int n => exact ⟨fun _ => rfl, fun _ => ⟨n != 0, rfl⟩⟩
  | text s =>
    have hword : Text.lower s ∈ truthWords := by simpa [saysTrueOrFalse] using h
    rw [exists_toBool_text_iff, knows_iff_of_mem_truthWords hword]
    simp [isSwitchWord]
  | _ => cases h

end Value

/-! ## Fields -/

section

variable {ε α β : Type}

/-- A sequence of two steps that succeeds consists of two steps that do. -/
theorem exists_of_bind_eq_ok {x : Except ε α} {f : α → Except ε β} {b : β}
    (h : (x >>= f) = .ok b) : ∃ a, x = .ok a ∧ f a = .ok b := by
  cases x with
  | error e => cases h
  | ok a => exact ⟨a, rfl, h⟩

/-- A result that is put into another type is there iff it was. -/
theorem exists_map_eq_ok_iff (f : α → β) (x : Except ε α) :
    (∃ b, x.map f = .ok b) ↔ ∃ a, x = .ok a := by
  cases x <;> simp [Except.map]

end

namespace FieldKind

variable {kind : FieldKind} {v : Value}

/-- **What a kind of field takes a value for** before it looks at lengths, patterns and bounds. -/
def Takes (v : Value) : FieldKind → Prop
  | .char _ _ | .text | .email _ => ∃ s, textOf v = .ok s
  | .integer _ => ∃ n k, integerOf v = .ok n ∧ narrowed n = .ok k
  | .bigInteger _ => ∃ n, integerOf v = .ok n
  | .float _ => ∃ x y, floatOf v = .ok x ∧ finite x = .ok y
  | .boolean => saysTrueOrFalse v = true
  | .dateTime _ _ => checkDateTime v = .ok ()

/-- A value that passes the check of a kind is taken by that kind. -/
theorem takes_of_check (h : kind.check v = .ok ()) : kind.Takes v := by
  cases kind with
  | char maxLength pattern =>
    obtain ⟨s, hs, -⟩ := exists_of_bind_eq_ok h
    exact ⟨s, hs⟩
  | text => exact (exists_map_eq_ok_iff _ _).1 ⟨(), h⟩
  | email maxLength =>
    obtain ⟨s, hs, -⟩ := exists_of_bind_eq_ok h
    exact ⟨s, hs⟩
  | integer bounds =>
    obtain ⟨n, hn, hrest⟩ := exists_of_bind_eq_ok h
    obtain ⟨k, hk, -⟩ := exists_of_bind_eq_ok hrest
    exact ⟨n, k, hn, hk⟩
  | bigInteger bounds =>
    obtain ⟨n, hn, -⟩ := exists_of_bind_eq_ok h
    exact ⟨n, hn⟩
  | float bounds =>
    obtain ⟨x, hx, hrest⟩ := exists_of_bind_eq_ok h
    obtain ⟨y, hy, -⟩ := exists_of_bind_eq_ok hrest
    exact ⟨x, y, hx, hy⟩
  | boolean =>
    by_cases hsays : saysTrueOrFalse v = true
    · exact hsays
    · simp only [check, if_neg hsays] at h
      cases h
  | dateTime autoNow autoNowAdd => exact h

/-- **What a kind takes is read back** as the type of the kind, except for truth values. -/
theorem exists_readAs_of_takes (hkind : kind ≠ .boolean) (h : kind.Takes v) :
    ∃ w, v.readAs kind.rowType = .ok w := by
  cases kind with
  | boolean => exact absurd rfl hkind
  | char | text | email =>
    obtain ⟨s, hs⟩ := h
    exact (exists_map_eq_ok_iff _ _).2 ⟨s, Value.toText_of_textOf hs⟩
  | integer bounds =>
    obtain ⟨n, k, hn, hk⟩ := h
    exact (exists_map_eq_ok_iff _ _).2 ⟨k, Value.toInt32_of_narrowed hn hk⟩
  | bigInteger bounds =>
    obtain ⟨n, hn⟩ := h
    exact (exists_map_eq_ok_iff _ _).2 ⟨n, Value.toInt64_of_integerOf hn⟩
  | float bounds =>
    obtain ⟨x, -, hx, -⟩ := h
    exact (exists_map_eq_ok_iff _ _).2 ⟨x, Value.toFloat_of_floatOf hx⟩
  | dateTime autoNow autoNowAdd =>
    exact (exists_map_eq_ok_iff _ _).2 (Value.exists_toTimestamp_of_checkDateTime h)

end FieldKind

/-- A value that is present and accepted by a field is taken by the kind of the field. -/
theorem Field.takes_of_validate {f : Field} {v : Value} (hpresent : v.isNull = false)
    (h : f.validate v = .ok ()) : f.kind.Takes v := by
  rw [validate, hpresent] at h
  simp only [Bool.false_eq_true, if_false] at h
  split at h
  · cases h
  · split at h
    · cases h
    · exact FieldKind.takes_of_check h

/-- **What a field accepts can be read back**, with one exception.  A value that is present and
accepted by a field can be read as the type of the field's kind, unless the field holds truth values
and the value is a text with a word of a switch, in any letter case. -/
theorem Field.reads_back_iff {f : Field} {v : Value} (hpresent : v.isNull = false)
    (haccepted : f.validate v = .ok ()) :
    (∃ w, v.readAs f.kind.rowType = .ok w) ↔
      ¬(f.kind = .boolean ∧ v.isSwitchWord = true) := by
  have htakes := takes_of_validate hpresent haccepted
  by_cases hkind : f.kind = .boolean
  · rw [hkind] at htakes
    have hread := Value.exists_toBool_iff htakes
    rw [hkind]
    refine (exists_map_eq_ok_iff _ _).trans (hread.trans ?_)
    simp
  · constructor
    · rintro - ⟨hboolean, -⟩
      exact hkind hboolean
    · intro _
      exact FieldKind.exists_readAs_of_takes hkind htakes

/-! ## Two fields -/

/-- A column for a number of pages, one of three. -/
def pages : Field :=
  ⟨"pages", .integer { least := some 1, greatest := some 500 },
    .ofList [.choices [.text " +42 ", .int 7, .text "007"]]⟩

/-- A column that says whether a book is in stock. -/
def inStock : Field := ⟨"in_stock", .boolean, .ofList []⟩

/-- That column accepts every word for a truth value. -/
theorem inStock_validate {s : String} (hword : saysTrueOrFalse (.text s) = true) :
    inStock.validate (.text s) = .ok () := by
  have hpresent : s ≠ "" := by
    rintro rfl
    exact absurd hword (by decide +kernel)
  simp [Field.validate, inStock, Value.isNull, Value.isEmptyText, hpresent, FieldOptions.ofList,
    FieldKind.check, hword]

/-- Both fields at work: a number with blanks and a sign is read back, a word of a switch is not. -/
theorem Field.reads_back_of_pages_and_inStock :
    (∃ w, (Value.text " +42 ").readAs .int32 = .ok w) ∧
      ¬∃ w, (Value.text "Off").readAs .bool = .ok w := by
  constructor
  · refine (Field.reads_back_iff (f := pages) rfl (by rfl)).2 ?_
    rintro ⟨hkind, -⟩
    cases hkind
  · intro hread
    have haccepted : inStock.validate (.text "Off") = .ok () := inStock_validate (by decide +kernel)
    have hexcept := (Field.reads_back_iff (f := inStock) rfl haccepted).1 hread
    exact hexcept ⟨rfl, by decide +kernel⟩

/-- **A field of truth values accepts a text that no reader of truth values accepts**, so accepted
values cannot all be read back. -/
theorem Field.not_reads_back_of_on :
    inStock.validate (.text "on") = .ok () ∧
      ∀ w, (Value.text "on").readAs inStock.kind.rowType ≠ .ok w := by
  constructor
  · exact inStock_validate (by decide +kernel)
  · intro w hw
    obtain ⟨b, hb⟩ := (exists_map_eq_ok_iff _ _).1 ⟨w, hw⟩
    have hknown := (Value.exists_toBool_text_iff "on").1 ⟨b, hb⟩
    exact absurd hknown (by decide +kernel)

end SqlBuilder
