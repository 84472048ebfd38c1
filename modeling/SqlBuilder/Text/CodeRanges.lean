import SqlBuilder.Text.Hexadecimal
import SqlBuilder.Text.Pieces

/-! # Ranges of code points

A set of characters is kept as a table of inclusive code-point ranges.  The operations of this
module keep the ranges in order and apart from each other, and `contains_union`,
`contains_complement` and their companions say what they do to membership.  A table of a standard is
written in lines of tokens, which `ofLines` reads. -/

namespace SqlBuilder.Text

/-- A set of characters written as inclusive ranges of code points. -/
abbrev CodeRanges : Type := List (Nat × Nat)

namespace CodeRanges

/-! ## Membership -/

/-- Whether a code point lies in one of the ranges. -/
def covers (table : CodeRanges) (code : Nat) : Bool :=
  table.any fun range => decide (range.1 ≤ code) && decide (code ≤ range.2)

/-- Whether a character's code point lies in one of the ranges. -/
def contains (table : CodeRanges) (c : Char) : Bool := table.covers c.toNat

/-- A code point is covered if one of the ranges holds it. -/
theorem covers_iff (table : CodeRanges) (code : Nat) :
    table.covers code = true ↔ ∃ range ∈ table, range.1 ≤ code ∧ code ≤ range.2 := by
  simp [covers]

/-- No character belongs to the empty table. -/
@[simp] theorem contains_nil (c : Char) : contains [] c = false := rfl

@[simp] theorem covers_nil (code : Nat) : covers [] code = false := rfl

@[simp] theorem covers_cons (range : Nat × Nat) (rest : CodeRanges) (code : Nat) :
    covers (range :: rest) code =
      (decide (range.1 ≤ code) && decide (code ≤ range.2) || rest.covers code) := by
  simp [covers]

@[simp] theorem covers_append (a b : CodeRanges) (code : Nat) :
    covers (a ++ b) code = (a.covers code || b.covers code) := by
  simp [covers]

/-- Membership in a table is membership in one of its ranges. -/
theorem contains_iff (table : CodeRanges) (c : Char) :
    table.contains c = true ↔ ∃ range ∈ table, range.1 ≤ c.toNat ∧ c.toNat ≤ range.2 :=
  covers_iff table c.toNat

/-- The set of one character. -/
def single (c : Char) : CodeRanges := [(c.toNat, c.toNat)]

/-- The characters from one to another. -/
def between (first last : Char) : CodeRanges := [(first.toNat, last.toNat)]

/-! ## Union -/

/-- A range and the ranges behind it, in order of their first code points, with those joined that
touch. -/
def joinFrom (first last : Nat) : CodeRanges → CodeRanges
  | [] => [(first, last)]
  | (a, b) :: rest =>
    if a ≤ last + 1 then joinFrom first (max last b) rest else (first, last) :: joinFrom a b rest

/-- Ranges in order of their first code points, with those joined that touch. -/
def join : CodeRanges → CodeRanges
  | [] => []
  | (first, last) :: rest => joinFrom first last rest

/-- The ranges in order of their first code points. -/
def sorted (table : CodeRanges) : CodeRanges := table.mergeSort fun r s => decide (r.1 ≤ s.1)

/-- The characters of two sets. -/
def union (a b : CodeRanges) : CodeRanges := join (sorted (a ++ b))

/-- The characters of many sets. -/
def unions (tables : List CodeRanges) : CodeRanges := join (sorted tables.flatten)

theorem pairwise_sorted (table : CodeRanges) :
    (sorted table).Pairwise fun r s => r.1 ≤ s.1 := by
  have h : (sorted table).Pairwise fun r s => decide (r.1 ≤ s.1) = true :=
    List.pairwise_mergeSort (by simp only [decide_eq_true_eq]; omega) (by simp; omega) table
  simpa using h

@[simp] theorem covers_sorted (table : CodeRanges) (code : Nat) :
    (sorted table).covers code = table.covers code := by
  rw [Bool.eq_iff_iff, covers_iff, covers_iff]
  simp [sorted]

/-- Joining keeps the code points. -/
theorem covers_joinFrom {rest : CodeRanges} {first : Nat} (last code : Nat)
    (h : rest.Pairwise fun r s => r.1 ≤ s.1) (hf : ∀ r ∈ rest, first ≤ r.1) :
    (joinFrom first last rest).covers code = covers ((first, last) :: rest) code := by
  induction rest generalizing first last with
  | nil => rfl
  | cons range rest ih =>
    obtain ⟨a, b⟩ := range
    rw [List.pairwise_cons] at h
    have ha : first ≤ a := hf (a, b) (by simp)
    unfold joinFrom
    split
    · rw [ih _ h.2 fun r hr => hf r (List.mem_cons_of_mem _ hr), Bool.eq_iff_iff]
      simp only [covers, List.any_cons, Bool.or_eq_true, Bool.and_eq_true, decide_eq_true_eq,
        ← or_assoc]
      exact or_congr_left (by omega)
    · have := ih b h.2 h.1
      simp only [covers, List.any_cons] at this ⊢
      rw [this]

theorem covers_join {table : CodeRanges} (h : table.Pairwise fun r s => r.1 ≤ s.1) (code : Nat) :
    (join table).covers code = table.covers code := by
  cases table with
  | nil => rfl
  | cons range rest =>
    rw [List.pairwise_cons] at h
    exact covers_joinFrom range.2 code h.2 h.1

/-- A character is in the union if it is in one of the sets. -/
@[simp] theorem contains_union (a b : CodeRanges) (c : Char) :
    (union a b).contains c = (a.contains c || b.contains c) := by
  rw [contains, union, covers_join (pairwise_sorted _), covers_sorted, covers_append]
  rfl

/-- A character is in the union of many sets if it is in one of them. -/
@[simp] theorem contains_unions (tables : List CodeRanges) (c : Char) :
    (unions tables).contains c = tables.any fun table => table.contains c := by
  rw [contains, unions, covers_join (pairwise_sorted _), covers_sorted, covers, List.any_flatten]
  rfl

/-! ## Complement -/

/-- The last code point. -/
def lastCode : Nat := 0x10FFFF

/-- The code points that are no characters. -/
def surrogates : Nat × Nat := (0xD800, 0xDFFF)

/-- The ranges from a code point on that lie between ranges in order. -/
def gaps (start : Nat) : CodeRanges → CodeRanges
  | [] => if start ≤ lastCode then [(start, lastCode)] else []
  | (a, b) :: rest =>
    if start < a then (start, a - 1) :: gaps (max start (b + 1)) rest
    else gaps (max start (b + 1)) rest

/-- The characters that are not in a set. -/
def complement (table : CodeRanges) : CodeRanges := gaps 0 (sorted (surrogates :: table))

/-- The gaps from a code point on hold nothing before it. -/
theorem covers_gaps_of_lt {table : CodeRanges} {start code : Nat} (h : code < start) :
    (gaps start table).covers code = false := by
  induction table generalizing start with
  | nil =>
    rw [gaps]
    split <;> simp [Nat.not_le.2 h]
  | cons range rest ih =>
    have hrest : (gaps (max start (range.2 + 1)) rest).covers code = false := ih (by omega)
    rw [gaps]
    split <;> simp [Nat.not_le.2 h, hrest]

/-- The gaps hold what the ranges leave out. -/
theorem covers_gaps {table : CodeRanges} {start code : Nat}
    (h : table.Pairwise fun r s => r.1 ≤ s.1) (hs : start ≤ code) (hc : code ≤ lastCode) :
    (gaps start table).covers code = !table.covers code := by
  induction table generalizing start with
  | nil => simp [gaps, Nat.le_trans hs hc, hs, hc]
  | cons range rest ih =>
    obtain ⟨a, b⟩ := range
    rw [List.pairwise_cons] at h
    have below : code < a → covers rest code = false := by
      intro hlt
      rw [Bool.eq_false_iff, Ne, covers_iff]
      rintro ⟨r, hr, hle, _⟩
      have := h.1 r hr
      omega
    have hrest : (gaps (max start (b + 1)) rest).covers code =
        (decide (b < code) && !covers rest code) := by
      by_cases hb : code ≤ b
      · rw [covers_gaps_of_lt (by omega), decide_eq_false (by omega), Bool.false_and]
      · rw [ih h.2 (by omega), decide_eq_true (by omega), Bool.true_and]
    rw [gaps]
    by_cases ha : code < a
    · rw [if_pos (by omega), covers_cons, covers_cons, hrest, below ha]
      simp [hs, Nat.le_sub_one_of_lt ha, Nat.not_le.2 ha]
    · have hrange : (decide (b < code) && !covers rest code) =
          !(decide (a ≤ code) && decide (code ≤ b) || covers rest code) := by
        rw [decide_eq_true (Nat.not_lt.1 ha), Bool.true_and, Bool.not_or, ← decide_not]
        exact congrArg (· && _) (decide_eq_decide.2 Nat.not_le.symm)
      split
      · rw [covers_cons, covers_cons, hrest, decide_eq_false (by omega : ¬ code ≤ a - 1),
          Bool.and_false, Bool.false_or, hrange]
      · rw [covers_cons, hrest, hrange]

/-- No character is a surrogate. -/
theorem covers_surrogates (c : Char) : covers [surrogates] c.toNat = false := by
  rw [Bool.eq_false_iff, Ne, covers_iff]
  have := c.valid
  simp only [UInt32.isValidChar, Nat.isValidChar] at this
  simp only [List.mem_singleton, exists_eq_left, surrogates, Char.toNat]
  omega

/-- A character is in the complement if it is not in the set. -/
@[simp] theorem contains_complement (a : CodeRanges) (c : Char) :
    (complement a).contains c = !a.contains c := by
  have hc : c.toNat ≤ lastCode := by
    have := c.valid
    simp only [UInt32.isValidChar, Nat.isValidChar, lastCode, Char.toNat] at this ⊢
    omega
  rw [contains, complement, covers_gaps (pairwise_sorted _) (Nat.zero_le _) hc, covers_sorted,
    ← List.singleton_append, covers_append, covers_surrogates, Bool.false_or]
  rfl

/-! ## Further operations -/

/-- The characters that are in both sets. -/
def inter (a b : CodeRanges) : CodeRanges := complement (union (complement a) (complement b))

/-- The characters that are in the first set and not in the second. -/
def diff (a b : CodeRanges) : CodeRanges := complement (union (complement a) b)

/-- The characters that are in exactly one of two sets. -/
def symmDiff (a b : CodeRanges) : CodeRanges := union (diff a b) (diff b a)

@[simp] theorem contains_inter (a b : CodeRanges) (c : Char) :
    (inter a b).contains c = (a.contains c && b.contains c) := by
  simp [inter]

@[simp] theorem contains_diff (a b : CodeRanges) (c : Char) :
    (diff a b).contains c = (a.contains c && !b.contains c) := by
  simp [diff]

@[simp] theorem contains_symmDiff (a b : CodeRanges) (c : Char) :
    (symmDiff a b).contains c = (a.contains c != b.contains c) := by
  cases ha : a.contains c <;> cases hb : b.contains c <;> simp [symmDiff, ha, hb]

/-- Whether all characters of a set are ASCII characters. -/
def isAscii (table : CodeRanges) : Bool := table.all fun range => decide (range.2 < 128)

/-- The only character of a set, if there is exactly one. -/
def onlyChar? : CodeRanges → Option Char
  | [(first, last)] => if first = last then some (Char.ofNat first) else none
  | _ => none

/-! ## Tables in writing -/

/-- The code points `first`, `first + 2`, … , `first + 2 * n`. -/
def everyOther (first : Nat) : Nat → CodeRanges
  | 0 => [(first, first)]
  | n + 1 => (first, first) :: everyOther (first + 2) n

/-- The ranges of a token: one code point, the first and the last of a range with a minus between
them, or the first and the last of a row that leaves out every second code point, with `/2` behind
them. -/
def ofToken (token : List Char) : CodeRanges :=
  match cutFirst '-' token with
  | none => [(ofHexDigits token, ofHexDigits token)]
  | some (first, rest) =>
    match cutFirst '/' rest with
    | none => [(ofHexDigits first, ofHexDigits rest)]
    | some (last, _) =>
      everyOther (ofHexDigits first) ((ofHexDigits last - ofHexDigits first) / 2)

/-- The ranges of lines of tokens with single blanks between them. -/
def ofLines (lines : List String) : CodeRanges :=
  lines.flatMap fun line => (splitChars ' ' line.toList).flatMap ofToken

end CodeRanges

end SqlBuilder.Text
