import Mathlib.Data.List.Basic
import SqlBuilder.Proofs.Plain
import SqlBuilder.Text.Blank

/-! # Reading paging clauses

What a paging clause means is read off its words (`Dialect.readPaging`): how many rows it skips and
how many it keeps, or the numbers of the first and the last row.  Each dialect reads its own idiom
only, at the place where it has such clauses.  The rows that a limit and an offset keep are said by
their numbers alone (`keptRows`), without regard to any clause. -/

namespace SqlBuilder

/-! ## Numbered rows -/

section Rows

variable {α : Type} {p : Nat → Bool} {rows : List α}

/-- The rows whose numbers, counted from one, satisfy a condition. -/
def numberedRows (p : Nat → Bool) (rows : List α) : List α :=
  ((rows.zipIdx 1).filter fun row => p row.2).map Prod.fst

/-- **The rows that a limit and an offset keep**: those with the numbers from `offset + 1` to
`offset + limit`, or all from `offset + 1` on if the limit is zero. -/
def keptRows (limit offset : UInt64) (rows : List α) : List α :=
  numberedRows (fun i => decide (offset.toNat + 1 ≤ i) &&
    (decide (limit = 0) || decide (i ≤ offset.toNat + limit.toNat))) rows

/-- Rows are kept if all of their numbers satisfy the condition. -/
theorem filter_zipIdx_of_forall {k : Nat} (h : ∀ i, k ≤ i → i < k + rows.length → p i = true) :
    ((rows.zipIdx k).filter fun row => p row.2).map Prod.fst = rows := by
  have hall : (rows.zipIdx k).filter (fun row => p row.2) = rows.zipIdx k := by
    refine List.filter_eq_self.2 fun row hrow => ?_
    obtain ⟨hlow, hhigh, -⟩ := List.mem_zipIdx hrow
    exact h row.2 hlow hhigh
  rw [hall, List.zipIdx_map_fst]

/-- No rows are kept if none of their numbers satisfies the condition. -/
theorem filter_zipIdx_of_forall_not {k : Nat}
    (h : ∀ i, k ≤ i → i < k + rows.length → p i = false) :
    ((rows.zipIdx k).filter fun row => p row.2).map Prod.fst = [] := by
  have hnone : (rows.zipIdx k).filter (fun row => p row.2) = [] := by
    refine List.filter_eq_nil_iff.2 fun row hrow => ?_
    obtain ⟨hlow, hhigh, -⟩ := List.mem_zipIdx hrow
    simp [h row.2 hlow hhigh]
  rw [hnone, List.map_nil]

/-- **A condition that holds from one number on** keeps the rows from there on. -/
theorem numberedRows_eq_drop {m : Nat} (hlow : ∀ i, i ≤ m → i ≤ rows.length → p i = false)
    (hhigh : ∀ i, m < i → i ≤ rows.length → p i = true) : numberedRows p rows = rows.drop m := by
  -- The first `m` rows have the numbers up to `m`, the others the numbers from `m + 1` on.
  conv_lhs => rw [← List.take_append_drop m rows]
  rw [numberedRows, List.zipIdx_append, List.filter_append, List.map_append,
    filter_zipIdx_of_forall_not, filter_zipIdx_of_forall, List.nil_append]
  · intro i hi hlt
    simp only [List.length_take, List.length_drop] at hi hlt
    exact hhigh i (by omega) (by omega)
  · intro i hi hlt
    simp only [List.length_take] at hlt
    exact hlow i (by omega) (by omega)

/-- **A condition that holds from one number to another** keeps a window of the rows. -/
theorem numberedRows_eq_take_drop {m n : Nat}
    (hlow : ∀ i, i ≤ m → i ≤ rows.length → p i = false)
    (hmid : ∀ i, m < i → i ≤ m + n → i ≤ rows.length → p i = true)
    (hhigh : ∀ i, m + n < i → i ≤ rows.length → p i = false) :
    numberedRows p rows = (rows.drop m).take n := by
  -- No row behind the window is kept, and among the rows before its end the condition holds from
  -- one number on.
  have htail : (((rows.drop (m + n)).zipIdx (1 + (rows.take (m + n)).length)).filter
      fun row => p row.2).map Prod.fst = [] := by
    refine filter_zipIdx_of_forall_not fun i hi hlt => ?_
    simp only [List.length_take, List.length_drop] at hi hlt
    exact hhigh i (by omega) (by omega)
  conv_lhs => rw [← List.take_append_drop (m + n) rows]
  rw [numberedRows, List.zipIdx_append, List.filter_append, List.map_append, htail,
    List.append_nil, List.take_drop]
  refine numberedRows_eq_drop (fun i hi hle => ?_) fun i hi hle => ?_
  · simp only [List.length_take] at hle
    exact hlow i hi (by omega)
  · simp only [List.length_take] at hle
    exact hmid i hi (by omega) (by omega)

end Rows

/-- Without a limit, all rows after the offset are kept. -/
theorem keptRows_zero {α : Type} (offset : UInt64) (rows : List α) :
    keptRows 0 offset rows = rows.drop offset.toNat := by
  refine numberedRows_eq_drop (fun i hi _ => ?_) fun i hi _ => ?_
  · simp; omega
  · simp; omega

/-- With a limit, so many rows after the offset are kept. -/
theorem keptRows_of_ne_zero {α : Type} {limit : UInt64} (h : limit ≠ 0) (offset : UInt64)
    (rows : List α) : keptRows limit offset rows = (rows.drop offset.toNat).take limit.toNat := by
  refine numberedRows_eq_take_drop (fun i hi _ => ?_) (fun i hi hle _ => ?_) fun i hi _ => ?_
  · simp [h]; omega
  · simp [h]; omega
  · simp [h]; omega

/-! ## What a clause says -/

/-- What a paging clause says about rows. -/
inductive PagingMeaning where
  /-- So many rows are skipped, and so many of the others kept, or all. -/
  | window (skip : Nat) (keep : Option Nat)
  /-- The rows from one number to another are kept, counted from one. -/
  | numbered (first last : Nat)
deriving Repr, DecidableEq

/-- **The rows that are kept.** -/
def PagingMeaning.rows {α : Type} (m : PagingMeaning) (rows : List α) : List α :=
  match m with
  | .window skip none => rows.drop skip
  | .window skip (some keep) => (rows.drop skip).take keep
  | .numbered first last => numberedRows (fun i => decide (first ≤ i) && decide (i ≤ last)) rows

/-- Rows numbered from one number on, if the last number is beyond all of them. -/
theorem PagingMeaning.rows_numbered_eq_drop {α : Type} {rows : List α} {first last m : Nat}
    (hfirst : ∀ i, i ≤ rows.length → (first ≤ i ↔ m < i)) (hlast : rows.length ≤ last) :
    PagingMeaning.rows (.numbered first last) rows = rows.drop m := by
  rw [PagingMeaning.rows]
  refine numberedRows_eq_drop (fun i hi hle => ?_) fun i hi hle => ?_
  · have : ¬ first ≤ i := fun hle' => absurd ((hfirst i hle).1 hle') (by omega)
    simp [this]
  · have : first ≤ i := (hfirst i hle).2 hi
    simp [this]
    omega

/-- Rows numbered from one number to another. -/
theorem PagingMeaning.rows_numbered_eq_take_drop {α : Type} {rows : List α}
    {first last m n : Nat} (hfirst : ∀ i, i ≤ rows.length → (first ≤ i ↔ m < i))
    (hlast : ∀ i, i ≤ rows.length → (i ≤ last ↔ i ≤ m + n)) :
    PagingMeaning.rows (.numbered first last) rows = (rows.drop m).take n := by
  rw [PagingMeaning.rows]
  refine numberedRows_eq_take_drop (fun i hi hle => ?_) (fun i hi hn hle => ?_) fun i hi hle => ?_
  · have : ¬ first ≤ i := fun hle' => absurd ((hfirst i hle).1 hle') (by omega)
    simp [this]
  · have hboth : first ≤ i ∧ i ≤ last := ⟨(hfirst i hle).2 hi, (hlast i hle).2 hn⟩
    simp [hboth]
  · have : ¬ i ≤ last := fun hle' => absurd ((hlast i hle).1 hle') (by omega)
    simp [this]

/-- A word of decimal digits as a number. -/
def readNumber (word : String) : Option Nat :=
  if !word.toList.isEmpty && word.toList.all Char.isDigit then
    some (Nat.ofDigitChars 10 word.toList 0)
  else none

/-- A limit; a negative one is no limit. -/
def readLimit (word : String) : Option (Option Nat) :=
  match word.toList with
  | '-' :: digits => (readNumber (String.ofList digits)).map fun _ => none
  | _ => (readNumber word).map some

/-- A limit that is a count of rows. -/
def readCount (word : String) : Option (Option Nat) := (readNumber word).map some

/-! ### The idioms -/

/-- LIMIT with an optional OFFSET, for a way to read limits. -/
def readLimitOffset (limit : String → Option (Option Nat)) : List String → Option PagingMeaning
  | ["LIMIT", n] => (limit n).map (.window 0 ·)
  | ["LIMIT", n, "OFFSET", m] => (limit n).bind fun keep => (readNumber m).map (.window · keep)
  | _ => none

/-- LIMIT and OFFSET, or one of them. -/
def readLimitOrOffset : List String → Option PagingMeaning
  | ["OFFSET", m] => (readNumber m).map (.window · none)
  | words => readLimitOffset readCount words

/-- TOP. -/
def readTop : List String → Option PagingMeaning
  | ["TOP", n] => (readNumber n).map fun keep => .window 0 (some keep)
  | _ => none

/-- OFFSET in rows with an optional FETCH NEXT. -/
def readFetchNext : List String → Option PagingMeaning
  | ["OFFSET", m, "ROWS"] => (readNumber m).map (.window · none)
  | ["OFFSET", m, "ROWS", "FETCH", "NEXT", n, "ROWS", "ONLY"] =>
    (readNumber n).bind fun keep => (readNumber m).map (.window · (some keep))
  | _ => none

/-- OFFSET in rows and FETCH FIRST, or one of them. -/
def readFetchFirst : List String → Option PagingMeaning
  | ["OFFSET", m, "ROWS"] => (readNumber m).map (.window · none)
  | ["OFFSET", m, "ROWS", "FETCH", "FIRST", n, "ROWS", "ONLY"] =>
    (readNumber n).bind fun keep => (readNumber m).map (.window · (some keep))
  | ["FETCH", "FIRST", n, "ROWS", "ONLY"] => (readNumber n).map fun keep => .window 0 (some keep)
  | _ => none

/-- FIRST and SKIP, or one of them. -/
def readFirstSkip : List String → Option PagingMeaning
  | ["FIRST", n] => (readNumber n).map fun keep => .window 0 (some keep)
  | ["SKIP", m] => (readNumber m).map (.window · none)
  | ["FIRST", n, "SKIP", m] =>
    (readNumber n).bind fun keep => (readNumber m).map (.window · (some keep))
  | _ => none

/-- ROWS with the number of the last row, or of the first and the last one. -/
def readRows : List String → Option PagingMeaning
  | ["ROWS", n] => (readNumber n).map fun last => .numbered 1 last
  | ["ROWS", a, "TO", b] => (readNumber a).bind fun first => (readNumber b).map (.numbered first ·)
  | _ => none

/-! ### The dialects -/

/-- Where a paging clause stands in a statement. -/
inductive PagingPlace where
  /-- Behind the first words. -/
  | head
  /-- At the end. -/
  | tail
deriving Repr, DecidableEq

/-- **The documented meaning of the words of a paging clause**, where a dialect has such a clause.
No words keep every row. -/
def Dialect.meaningOfWords (d : Dialect) (place : PagingPlace) (words : List String) :
    Option PagingMeaning :=
  if words.isEmpty then some (.window 0 none)
  else
    match d, place with
    | .standard, .tail | .postgreSql, .tail => readLimitOrOffset words
    | .mariaDb, .tail | .mySql, .tail => readLimitOffset readCount words
    | .sqlite, .tail => readLimitOffset readLimit words
    | .msSql, .head => readTop words
    | .msSql, .tail => readFetchNext words
    | .db2, .tail => readFetchFirst words
    | .firebird, .head => readFirstSkip words
    | .firebird, .tail => readRows words
    | _, _ => none

/-- **The meaning of the text of a paging clause** in a dialect. -/
def Dialect.readPaging (d : Dialect) (place : PagingPlace) (clause : String) :
    Option PagingMeaning :=
  d.meaningOfWords place (Text.words clause)

/-- The characters of a written number are its digits. -/
theorem toList_toString_nat (n : Nat) : (toString n).toList = Nat.toDigits 10 n := by simp

/-- A number is read from its digits. -/
theorem readNumber_toString (n : Nat) : readNumber (toString n) = some n := by
  have hne : (Nat.toDigits 10 n).isEmpty = false := by simp
  have hall : (Nat.toDigits 10 n).all Char.isDigit = true :=
    List.all_eq_true.2 fun _ => isDigit_of_mem_decimal
  rw [readNumber, toList_toString_nat, hne, hall, Nat.ofDigitChars_ten_toDigits]
  rfl

/-- A limit is read from its digits. -/
theorem readLimit_toString_ofNat (n : Nat) :
    readLimit (toString (n : Int)) = some (some n) := by
  have htext : toString (n : Int) = toString n := rfl
  have hread := readNumber_toString n
  rw [htext, readLimit, toList_toString_nat]
  split
  · next digits hdigits =>
    -- The first digit of a number is no sign.
    have hdash : Char.isDigit '-' = true :=
      isDigit_of_mem_decimal (n := n) (hdigits ▸ List.mem_cons_self)
    exact absurd hdash (by decide)
  · rw [hread, Option.map_some]

/-- A negative limit is no limit. -/
theorem readLimit_toString_negSucc (n : Nat) :
    readLimit (toString (Int.negSucc n)) = some none := by
  have htext : toString (Int.negSucc n) = "-" ++ toString (n + 1) := rfl
  have hchars : ("-" ++ toString (n + 1)).toList = '-' :: (toString (n + 1)).toList := by simp
  rw [htext, readLimit, hchars]
  simp only [String.ofList_toList]
  rw [readNumber_toString, Option.map_some]

/-! ## The words of a clause -/

/-- A text that is one word: without blanks, and not empty. -/
def IsWord (word : String) : Prop :=
  word.toList ≠ [] ∧ ∀ c ∈ word.toList, Text.isBlank c = false

instance (word : String) : Decidable (IsWord word) :=
  @instDecidableAnd _ _ inferInstance (List.decidableBAll _ _)

/-- Digits are not blank. -/
theorem isBlank_of_isDigit {c : Char} (h : c.isDigit = true) : Text.isBlank c = false := by
  have hrange : 48 ≤ c.toNat ∧ c.toNat ≤ 57 := by
    simpa [Char.isDigit, UInt32.le_iff_toNat_le] using h
  simp [Text.isBlank, Text.CodeRanges.contains, Text.blankRanges]
  omega

/-- A written number is a word. -/
theorem isWord_toString_nat (n : Nat) : IsWord (toString n) := by
  rw [IsWord, toList_toString_nat]
  exact ⟨by simp, fun c hc => isBlank_of_isDigit (isDigit_of_mem_decimal hc)⟩

/-- A written integer is a word. -/
theorem isWord_toString_int (n : Int) : IsWord (toString n) := by
  cases n with
  | ofNat m => exact isWord_toString_nat m
  | negSucc m =>
    have htext : toString (Int.negSucc m) = "-" ++ toString (m + 1) := rfl
    rw [htext, IsWord, String.toList_append]
    refine ⟨by simp, fun c hc => ?_⟩
    rcases List.mem_append.1 hc with hc | hc
    · obtain rfl : c = '-' := by simpa using hc
      decide
    · exact (isWord_toString_nat (m + 1)).2 c hc

namespace Text

/-- A blank in front of a text does not change its words. -/
theorem words_blank_append (s : String) : words (" " ++ s) = words s := by
  have hblank : isBlank ' ' = true := by decide
  simp [words, wordsFrom, hblank]

/-- Characters that are not blank belong to the current word. -/
theorem wordsFrom_append {w : List Char} (hw : ∀ c ∈ w, isBlank c = false) (current k : List Char) :
    wordsFrom current (w ++ k) = wordsFrom (w.reverse ++ current) k := by
  induction w generalizing current with
  | nil => rfl
  | cons c rest ih =>
    have hc : isBlank c = false := hw c List.mem_cons_self
    rw [List.cons_append, wordsFrom, hc]
    simp only [Bool.false_eq_true, if_false]
    rw [ih (fun x hx => hw x (List.mem_cons_of_mem c hx)), List.reverse_cons, List.append_assoc,
      List.singleton_append]

/-- A word behind which the text ends or goes on with a blank is a word of the text. -/
theorem words_append {w : String} (hw : IsWord w) {s : String}
    (hs : s = "" ∨ ∃ k, s = " " ++ k) : words (w ++ s) = w :: words s := by
  have hblank : isBlank ' ' = true := by decide
  have hcurrent : (w.toList.reverse ++ []).isEmpty = false := by simpa using hw.1
  have hword : String.ofList (w.toList.reverse ++ []).reverse = w := by simp
  rw [words, String.toList_append, wordsFrom_append hw.2]
  -- The word is complete at the end of the text, or at the blank behind it.
  rcases hs with rfl | ⟨k, rfl⟩
  · have hend : wordsFrom (w.toList.reverse ++ []) "".toList
        = [(w.toList.reverse ++ []).reverse] := by
      simp only [String.toList_empty, wordsFrom, hcurrent, Bool.false_eq_true, if_false]
    rw [hend, List.map_singleton, hword]
    rfl
  · have hnext : wordsFrom (w.toList.reverse ++ []) (" " ++ k).toList
        = (w.toList.reverse ++ []).reverse :: wordsFrom [] k.toList := by
      have hchars : (" " ++ k).toList = ' ' :: k.toList := by simp
      rw [hchars, wordsFrom, if_pos hblank, hcurrent]
      rfl
    rw [hnext, List.map_cons, hword, words_blank_append, words]

/-- Words behind blanks are no text at all, or start with a blank. -/
theorem join_leading_cases (ws : List String) :
    String.join (ws.map (" " ++ ·)) = "" ∨ ∃ k, String.join (ws.map (" " ++ ·)) = " " ++ k := by
  cases ws with
  | nil => exact Or.inl rfl
  | cons w ws =>
    refine Or.inr ⟨w ++ String.join (ws.map (" " ++ ·)), ?_⟩
    rw [List.map_cons, String.join_cons, String.append_assoc]

/-- Words in front of blanks are no text at all, or end with a blank. -/
theorem join_trailing_cases (ws : List String) :
    String.join (ws.map (· ++ " ")) = "" ∨ ∃ k, String.join (ws.map (· ++ " ")) = k ++ " " := by
  induction ws with
  | nil => exact Or.inl rfl
  | cons w ws ih =>
    rw [List.map_cons, String.join_cons]
    rcases ih with h | ⟨k, h⟩
    · exact Or.inr ⟨w, by rw [h, String.append_empty]⟩
    · exact Or.inr ⟨w ++ " " ++ k, by rw [h, ← String.append_assoc]⟩

/-- **The words of words behind blanks** are the words. -/
theorem words_join_leading {ws : List String} (h : ∀ w ∈ ws, IsWord w) :
    words (String.join (ws.map (" " ++ ·))) = ws := by
  induction ws with
  | nil => rfl
  | cons w ws ih =>
    rw [List.map_cons, String.join_cons, String.append_assoc, words_blank_append,
      words_append (h w List.mem_cons_self) (join_leading_cases ws),
      ih fun x hx => h x (List.mem_cons_of_mem w hx)]

/-- **The words of words in front of blanks** are the words. -/
theorem words_join_trailing {ws : List String} (h : ∀ w ∈ ws, IsWord w) :
    words (String.join (ws.map (· ++ " "))) = ws := by
  induction ws with
  | nil => rfl
  | cons w ws ih =>
    rw [List.map_cons, String.join_cons, String.append_assoc,
      words_append (h w List.mem_cons_self) (Or.inr ⟨_, rfl⟩), words_blank_append,
      ih fun x hx => h x (List.mem_cons_of_mem w hx)]

end Text

end SqlBuilder
