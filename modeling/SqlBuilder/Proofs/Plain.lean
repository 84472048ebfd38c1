import SqlBuilder.Change
import SqlBuilder.Insert
import SqlBuilder.Select

/-! # Plain text

A character is plain if it is no quote of any dialect and needs no protection in any literal.
Keywords, punctuation, numbers and the digits of dates are made of plain characters only, so they
neither open nor close quotes, whatever stands around them.  Numbers have an even smaller stock of
characters (`Decimal.isNumber_render`). -/

namespace SqlBuilder

/-! ## Texts of some characters -/

/-- A text all of whose characters are of a kind. -/
def ConsistsOf (p : Char → Bool) (s : String) : Prop := ∀ c ∈ s.toList, p c = true

-- The instance is named, so that the characters of the text are tried and not all there are.
instance (p : Char → Bool) (s : String) : Decidable (ConsistsOf p s) := List.decidableBAll _ _

namespace ConsistsOf

variable {p q : Char → Bool} {a b s : String}

/-- The characters of a concatenation are those of both parts. -/
theorem append_iff : ConsistsOf p (a ++ b) ↔ ConsistsOf p a ∧ ConsistsOf p b := by
  simp only [ConsistsOf, String.toList_append, List.mem_append]
  constructor
  · intro h; exact ⟨fun c hc => h c (Or.inl hc), fun c hc => h c (Or.inr hc)⟩
  · rintro ⟨ha, hb⟩ c (hc | hc)
    · exact ha c hc
    · exact hb c hc

/-- A choice between two texts of some characters. -/
theorem ite {r : Prop} [Decidable r] (ha : ConsistsOf p a) (hb : ConsistsOf p b) :
    ConsistsOf p (if r then a else b) := by
  split
  · exact ha
  · exact hb

/-- Characters of a narrower kind are of a wider one. -/
theorem mono (h : ConsistsOf p s) (hpq : ∀ c, p c = true → q c = true) : ConsistsOf q s :=
  fun c hc => hpq c (h c hc)

end ConsistsOf

/-! ## Plain characters -/

/-- A character that is no quote in any dialect and needs no protection in any literal. -/
def isPlainChar (c : Char) : Bool :=
  !(['\x27', '"', '\x60', '[', ']', '\\', '\x00', '\n', '\r', '\x1a'].contains c)

/-- A text of plain characters. -/
def IsPlain (s : String) : Prop := ∀ c ∈ s.toList, isPlainChar c = true

instance (s : String) : Decidable (IsPlain s) :=
  inferInstanceAs (Decidable (ConsistsOf isPlainChar s))

@[simp] theorem isPlain_empty : IsPlain "" := by simp [IsPlain]

/-- A concatenation is plain iff both parts are. -/
@[simp] theorem isPlain_append (a b : String) : IsPlain (a ++ b) ↔ IsPlain a ∧ IsPlain b :=
  ConsistsOf.append_iff

/-- A choice between two plain texts is plain. -/
theorem IsPlain.ite {p : Prop} [Decidable p] {a b : String} (ha : IsPlain a) (hb : IsPlain b) :
    IsPlain (if p then a else b) :=
  ConsistsOf.ite ha hb

/-! ## Numbers -/

/-- A character of a written number: a digit, a point, a sign, or a letter of `e`, `inf` and
`NaN`. -/
def isNumberChar (c : Char) : Bool :=
  c.isDigit || ['.', '-', '+', 'e', 'i', 'n', 'f', 'N', 'a'].contains c

/-- The characters of written numbers are plain. -/
theorem isPlainChar_of_isNumberChar {c : Char} (h : isNumberChar c = true) :
    isPlainChar c = true := by
  -- None of the characters that are not plain occurs in a number.
  rw [isPlainChar, Bool.not_eq_true', List.contains_eq_mem, decide_eq_false_iff_not]
  intro hc
  simp only [List.mem_cons, List.not_mem_nil, or_false] at hc
  rcases hc with rfl | rfl | rfl | rfl | rfl | rfl | rfl | rfl | rfl | rfl <;>
    exact absurd h (by decide)

/-- A text that is made like a number is plain. -/
theorem ConsistsOf.isPlain {s : String} (h : ConsistsOf isNumberChar s) : IsPlain s :=
  h.mono fun _ => isPlainChar_of_isNumberChar

/-- Decimal digits are characters of numbers. -/
theorem isNumberChar_of_isDigit {c : Char} (h : c.isDigit = true) : isNumberChar c = true := by
  simp [isNumberChar, h]

/-- A text of decimal digits is made like a number. -/
theorem isNumber_ofList_of_isDigit {cs : List Char} (h : ∀ c ∈ cs, c.isDigit = true) :
    ConsistsOf isNumberChar (String.ofList cs) := by
  intro c hc
  exact isNumberChar_of_isDigit (h c (by simpa using hc))

/-- The decimal digits of a number are digits. -/
theorem isDigit_of_mem_decimal {n : Nat} {c : Char} (h : c ∈ Nat.toDigits 10 n) :
    c.isDigit = true :=
  Nat.isDigit_of_mem_toDigits (by decide) (by decide) h

/-- The characters of a written number. -/
theorem isNumber_toString_nat (n : Nat) : ConsistsOf isNumberChar (toString n) := by
  intro c hc
  exact isNumberChar_of_isDigit (isDigit_of_mem_decimal (by simpa using hc))

/-- The characters of a written integer. -/
theorem isNumber_toString_int (n : Int) : ConsistsOf isNumberChar (toString n) := by
  cases n with
  | ofNat m => exact isNumber_toString_nat m
  | negSucc m =>
    have hneg : toString (Int.negSucc m) = "-" ++ toString (m + 1) := rfl
    rw [hneg, ConsistsOf.append_iff]
    exact ⟨by decide, isNumber_toString_nat _⟩

/-- A written number is plain. -/
@[simp] theorem isPlain_toString_nat (n : Nat) : IsPlain (toString n) :=
  (isNumber_toString_nat n).isPlain

/-- A written integer is plain. -/
@[simp] theorem isPlain_toString_int (n : Int) : IsPlain (toString n) :=
  (isNumber_toString_int n).isPlain

/-- A written count is plain. -/
@[simp] theorem isPlain_countText (n : UInt64) : IsPlain (countText n) := isPlain_toString_nat _

/-- A number with zeros in front is plain. -/
@[simp] theorem isPlain_zeroPadded (width n : Nat) : IsPlain (zeroPadded width n) := by
  rw [zeroPadded]
  refine (isNumber_ofList_of_isDigit fun c hc => ?_).isPlain
  rcases List.mem_append.1 hc with hc | hc
  · rw [List.eq_of_mem_replicate hc]; decide
  · exact isDigit_of_mem_decimal hc

/-! ### Fractional numbers -/

/-- A row of zeros is made like a number. -/
theorem isNumber_zeros (n : Nat) :
    ConsistsOf isNumberChar (String.ofList (List.replicate n '0')) :=
  isNumber_ofList_of_isDigit fun c hc => by rw [List.eq_of_mem_replicate hc]; decide

namespace Decimal

/-- The shortest digits of a number are digits. -/
theorem isDigit_of_mem_shortest {b : Binary} {c : Char} (h : c ∈ b.shortest.digits) :
    c.isDigit = true := by
  rw [Binary.shortest] at h
  have hmem := (List.dropWhile_sublist _).subset (List.mem_reverse.1 h)
  exact isDigit_of_mem_decimal (List.mem_reverse.1 hmem)

variable {s : Scientific} (hs : ∀ c ∈ s.digits, c.isDigit = true)
include hs

/-- The characters of digits in positional notation. -/
theorem isNumber_positionalText (layout : Layout) :
    ConsistsOf isNumberChar (positionalText layout s) := by
  have htake : ∀ n, ConsistsOf isNumberChar (String.ofList (s.digits.take n)) := fun n =>
    isNumber_ofList_of_isDigit fun c hc => hs c (List.mem_of_mem_take hc)
  have hdrop : ∀ n, ConsistsOf isNumberChar (String.ofList (s.digits.drop n)) := fun n =>
    isNumber_ofList_of_isDigit fun c hc => hs c (List.mem_of_mem_drop hc)
  have hall : ConsistsOf isNumberChar (String.ofList s.digits) := isNumber_ofList_of_isDigit hs
  have hdot : ConsistsOf isNumberChar "." := by decide
  have hzero : ConsistsOf isNumberChar "0." := by decide
  have hpoint : ConsistsOf isNumberChar (if layout.pointZero then ".0" else "") :=
    .ite (by decide) (by decide)
  simp only [positionalText]
  -- The point stands in front of all digits, behind all of them, or among them.
  refine .ite ?_ (.ite ?_ ?_) <;> simp only [String.ofList_append, ConsistsOf.append_iff]
  · exact ⟨hzero, isNumber_zeros _, hall⟩
  · exact ⟨⟨hall, isNumber_zeros _⟩, hpoint⟩
  · exact ⟨⟨htake _, hdot⟩, hdrop _⟩

/-- The characters of digits with an exponent. -/
theorem isNumber_exponentText (layout : Layout) :
    ConsistsOf isNumberChar (exponentText layout s) := by
  have hsign : ConsistsOf isNumberChar
      (if s.power < 0 then "-" else if layout.signedExponent then "+" else "") :=
    .ite (by decide) (.ite (by decide) (by decide))
  have hmantissa : ∀ m, ConsistsOf isNumberChar m → ConsistsOf isNumberChar (m ++ "e"
      ++ (if s.power < 0 then "-" else if layout.signedExponent then "+" else "")
      ++ toString s.power.natAbs) := by
    intro m hm
    simp only [ConsistsOf.append_iff]
    exact ⟨⟨⟨hm, by decide⟩, hsign⟩, isNumber_toString_nat _⟩
  -- What remains is the mantissa, with no digit, one digit or more.
  rw [exponentText]
  refine hmantissa _ ?_
  split
  · decide
  · next d hd =>
    have hone : ∀ c ∈ [d], c.isDigit = true := hd ▸ hs
    exact isNumber_ofList_of_isDigit hone
  · next d rest _ hd =>
    rw [hd] at hs
    have hone : ∀ c ∈ [d], c.isDigit = true := fun c hc => hs c (by simp_all)
    have hfirst : ConsistsOf isNumberChar (String.singleton d) := isNumber_ofList_of_isDigit hone
    have hrest : ConsistsOf isNumberChar (String.ofList rest) :=
      isNumber_ofList_of_isDigit fun c hc => hs c (List.mem_cons_of_mem _ hc)
    rw [ConsistsOf.append_iff, ConsistsOf.append_iff]
    exact ⟨⟨hfirst, by decide⟩, hrest⟩

/-- The characters of laid-out digits. -/
theorem isNumber_magnitude (layout : Layout) :
    ConsistsOf isNumberChar (layout.magnitude s) := by
  unfold Layout.magnitude
  split
  · exact isNumber_positionalText hs layout
  · exact .ite (isNumber_positionalText hs layout) (isNumber_exponentText hs layout)

omit hs

/-- **The characters of a written fractional number**, in every layout. -/
theorem isNumber_render (layout : Layout) (x : Float) :
    ConsistsOf isNumberChar (layout.render x) := by
  have hsign : ConsistsOf isNumberChar (if isNegative x then "-" else "") :=
    .ite (by decide) (by decide)
  have hzero : ConsistsOf isNumberChar (if layout.pointZero then "0.0" else "0") :=
    .ite (by decide) (by decide)
  simp only [Layout.render]
  refine .ite (by decide) (.ite ?_ (.ite ?_ ?_)) <;> rw [ConsistsOf.append_iff]
  · exact ⟨hsign, by decide⟩
  · exact ⟨hsign, hzero⟩
  · exact ⟨hsign, isNumber_magnitude (fun _ => isDigit_of_mem_shortest) layout⟩

/-- **A written fractional number is plain**, in every layout. -/
theorem isPlain_render (layout : Layout) (x : Float) : IsPlain (layout.render x) :=
  (isNumber_render layout x).isPlain

end Decimal

/-! ## Dates -/

/-- A written year is plain. -/
theorem isPlain_yearText (year : Int) : IsPlain (yearText year) := by
  unfold yearText
  refine .ite ?_ (.ite ?_ (isPlain_zeroPadded _ _)) <;> rw [isPlain_append]
  · exact ⟨by decide, isPlain_zeroPadded _ _⟩
  · exact ⟨by decide, isPlain_zeroPadded _ _⟩

/-- A written date and time is plain if the separator is. -/
theorem isPlain_dateAndTime (m : Moment) {separator : String} (h : IsPlain separator) :
    IsPlain (m.dateAndTime separator) := by
  have hdash : IsPlain "-" := by decide
  have hcolon : IsPlain ":" := by decide
  simp [Moment.dateAndTime, isPlain_yearText, h, hdash, hcolon]

end SqlBuilder
