import SqlBuilder.Proofs.PagingReading

/-! # Query blocks that number rows

In the dialect without paging clauses a query block numbers its rows as they pass its condition: the
first row to pass has the number one, and a row that is refused uses up no number
(`RowBlock.rowsFrom`).  A block can show the numbers of its rows under a name, and a block around it
can test them by that name.  The blocks around a query are read off the texts in front of it and
behind it (`readBlocks`). -/

namespace SqlBuilder

/-! ## The rows of a block -/

/-- A row with the numbers that it shows by name. -/
structure NumberedRow (α : Type) where
  /-- The row. -/
  value : α
  /-- The numbers that it shows. -/
  shown : Entries String Nat

/-- A condition on a number. -/
inductive NumberTest where
  /-- It is no larger than a bound. -/
  | atMost (bound : Nat)
  /-- It is no smaller than a bound. -/
  | atLeast (bound : Nat)
deriving Repr, DecidableEq

/-- Whether a number satisfies the condition. -/
def NumberTest.holds : NumberTest → Nat → Bool
  | .atMost bound, n => decide (n ≤ bound)
  | .atLeast bound, n => decide (bound ≤ n)

/-- The name of the number that a row gets in its block. -/
def rowNumber : String := "ROWNUM"

/-- A query block around another query. -/
structure RowBlock where
  /-- The name under which the block shows the numbers of its rows, if it does. -/
  numberName : Option String
  /-- The name of the number that the condition is about. -/
  subject : String
  /-- The condition. -/
  test : NumberTest
deriving Repr, DecidableEq

namespace RowBlock

variable {α : Type} {b : RowBlock}

/-- The number that the condition is about, in a row that is next to get a number. -/
def tested (b : RowBlock) (next : Nat) (row : NumberedRow α) : Option Nat :=
  if b.subject = rowNumber then some next else row.shown.find b.subject

/-- A row that passed, as the block shows it. -/
def shownRow (b : RowBlock) (number : Nat) (row : NumberedRow α) : NumberedRow α :=
  match b.numberName with
  | some name => ⟨row.value, row.shown.put name number⟩
  | none => row

/-- **The rows that pass a block**, of which the next gets the given number.  Only a row that passes
uses it up. -/
def rowsFrom (b : RowBlock) (next : Nat) : List (NumberedRow α) → List (NumberedRow α)
  | [] => []
  | row :: rest =>
    if (b.tested next row).any b.test.holds then
      b.shownRow next row :: b.rowsFrom (next + 1) rest
    else b.rowsFrom next rest

/-- **An upper bound on the numbers** keeps the first rows. -/
theorem rowsFrom_atMost {n : Nat} (hsubject : b.subject = rowNumber)
    (htest : b.test = .atMost n) (next : Nat) (rows : List (NumberedRow α)) :
    b.rowsFrom next rows
      = ((rows.take (n + 1 - next)).zipIdx next).map fun row => b.shownRow row.2 row.1 := by
  induction rows generalizing next with
  | nil => simp [rowsFrom]
  | cons row rest ih =>
    rw [rowsFrom, tested, if_pos hsubject, htest]
    by_cases h : next ≤ n
    · have hcount : n + 1 - next = (n + 1 - (next + 1)) + 1 := by omega
      have hpass : (some next).any (NumberTest.atMost n).holds = true := by
        simp [NumberTest.holds, h]
      rw [if_pos hpass, ih, hcount, List.take_succ_cons, List.zipIdx_cons, List.map_cons]
    · -- The number that was refused is the next number again.
      have hcount : n + 1 - next = 0 := by omega
      have hrefuse : ¬ (some next).any (NumberTest.atMost n).holds = true := by
        simpa [NumberTest.holds] using h
      rw [if_neg hrefuse, ih, hcount]
      rfl

/-- **A lower bound on the numbers** keeps all rows or none: the first row gets no number unless it
passes, and the next row is then in its place. -/
theorem rowsFrom_atLeast {bound : Nat} (hsubject : b.subject = rowNumber)
    (htest : b.test = .atLeast bound) (hname : b.numberName = none) (next : Nat)
    (rows : List (NumberedRow α)) :
    b.rowsFrom next rows = if bound ≤ next then rows else [] := by
  induction rows generalizing next with
  | nil => simp [rowsFrom]
  | cons row rest ih =>
    rw [rowsFrom, tested, if_pos hsubject, htest, shownRow, hname]
    by_cases h : bound ≤ next
    · have hpass : (some next).any (NumberTest.atLeast bound).holds = true := by
        simp [NumberTest.holds, h]
      rw [if_pos hpass, if_pos h, ih, if_pos (Nat.le_succ_of_le h)]
    · -- The next row is tested with the same number, and so it is refused as well.
      have hrefuse : ¬ (some next).any (NumberTest.atLeast bound).holds = true := by
        simpa [NumberTest.holds] using h
      rw [if_neg hrefuse, if_neg h, ih, if_neg h]

/-- **A condition on a number that the rows show** keeps the rows that satisfy it. -/
theorem rowsFrom_shown (hsubject : b.subject ≠ rowNumber) (hname : b.numberName = none) (next : Nat)
    (rows : List (NumberedRow α)) :
    b.rowsFrom next rows
      = rows.filter fun row => (row.shown.find b.subject).any b.test.holds := by
  induction rows generalizing next with
  | nil => rfl
  | cons row rest ih =>
    rw [rowsFrom, tested, if_neg hsubject, shownRow, hname, List.filter_cons, ih, ih]

end RowBlock

/-- **The rows of a query inside some blocks**, the innermost block first. -/
def rowsOfBlocks {α : Type} (blocks : List RowBlock) (rows : List α) : List α :=
  (blocks.foldl (fun rows b => b.rowsFrom 1 rows) (rows.map fun row => ⟨row, []⟩)).map
    NumberedRow.value

/-! ## Reading blocks -/

namespace Text

/-- Whether a character is a word of its own. -/
def isMark (c : Char) : Bool := c = '(' || c = ')' || c = ','

/-- A word that was read backwards, unless it is empty. -/
def wordRead (current : List Char) : List (List Char) :=
  if current.isEmpty then [] else [current.reverse]

/-- The words of a text and its brackets and commas, if the current word, read backwards, is
`current`. -/
def markedWordsFrom (current : List Char) : List Char → List (List Char)
  | [] => wordRead current
  | c :: rest =>
    if isBlank c then wordRead current ++ markedWordsFrom [] rest
    else if isMark c then wordRead current ++ [c] :: markedWordsFrom [] rest
    else markedWordsFrom (c :: current) rest

/-- The words of a text, with brackets and commas as words of their own. -/
def markedWords (s : String) : List String := (markedWordsFrom [] s.toList).map String.ofList

/-- A blank ends a word. -/
theorem markedWordsFrom_blank (current w k : List Char) :
    markedWordsFrom current (w ++ ' ' :: k)
      = markedWordsFrom current w ++ markedWordsFrom [] k := by
  have hblank : isBlank ' ' = true := by decide
  induction w generalizing current with
  | nil => rw [List.nil_append, markedWordsFrom, markedWordsFrom, if_pos hblank]
  | cons c rest ih =>
    rw [List.cons_append, markedWordsFrom, markedWordsFrom]
    -- The word in front is complete or goes on, whatever follows.
    split
    · rw [ih, List.append_assoc]
    · split
      · rw [ih, List.append_assoc, List.cons_append]
      · exact ih (c :: current)

/-- A mark ends a word and is one. -/
theorem markedWordsFrom_mark {c : Char} (hblank : isBlank c = false) (hmark : isMark c = true)
    (current w k : List Char) :
    markedWordsFrom current (w ++ c :: k)
      = markedWordsFrom current w ++ [c] :: markedWordsFrom [] k := by
  induction w generalizing current with
  | nil =>
    rw [List.nil_append, markedWordsFrom, markedWordsFrom, hblank, hmark]
    rfl
  | cons x rest ih =>
    rw [List.cons_append, markedWordsFrom, markedWordsFrom]
    split
    · rw [ih, List.append_assoc]
    · split
      · rw [ih, List.append_assoc, List.cons_append]
      · exact ih (x :: current)

/-- **The words before a blank and those behind it.** -/
theorem markedWords_append_blank (a b : String) :
    markedWords (a ++ (" " ++ b)) = markedWords a ++ markedWords b := by
  have hchars : (a ++ (" " ++ b)).toList = a.toList ++ ' ' :: b.toList := by simp
  rw [markedWords, hchars, markedWordsFrom_blank, List.map_append, markedWords, markedWords]

/-- **The words before a closing bracket and those behind it.** -/
theorem markedWords_append_closing (a b : String) :
    markedWords (a ++ (")" ++ b)) = markedWords a ++ ")" :: markedWords b := by
  have hchars : (a ++ (")" ++ b)).toList = a.toList ++ ')' :: b.toList := by simp
  rw [markedWords, hchars, markedWordsFrom_mark (by decide) (by decide), List.map_append,
    List.map_cons, markedWords, markedWords]

/-- Characters that are neither blanks nor marks belong to the current word. -/
theorem markedWordsFrom_of_forall {w : List Char}
    (hw : ∀ c ∈ w, isBlank c = false ∧ isMark c = false) (current : List Char) :
    markedWordsFrom current w = wordRead (w.reverse ++ current) := by
  induction w generalizing current with
  | nil => rfl
  | cons c rest ih =>
    obtain ⟨hblank, hmark⟩ := hw c List.mem_cons_self
    rw [markedWordsFrom, hblank, hmark]
    simp only [Bool.false_eq_true, if_false]
    rw [ih (fun x hx => hw x (List.mem_cons_of_mem c hx)), List.reverse_cons, List.append_assoc,
      List.singleton_append]

/-- A written number is a word. -/
theorem markedWords_countText (n : UInt64) : markedWords (countText n) = [countText n] := by
  have hword := isWord_toString_nat n.toNat
  have hdigits : ∀ c ∈ (countText n).toList, isBlank c = false ∧ isMark c = false := by
    intro c hc
    refine ⟨hword.2 c hc, ?_⟩
    rw [countText, toList_toString_nat] at hc
    have hdigit := isDigit_of_mem_decimal hc
    by_contra hmark
    simp only [isMark, Bool.not_eq_false, Bool.or_eq_true, decide_eq_true_eq] at hmark
    rcases hmark with (rfl | rfl) | rfl <;> exact absurd hdigit (by decide)
  have hne : (countText n).toList ≠ [] := hword.1
  rw [markedWords, markedWordsFrom_of_forall hdigits]
  simp [wordRead, hne]

end Text

/-- How a block starts. -/
inductive BlockHead where
  /-- It shows what the query inside shows. -/
  | star
  /-- It shows what a source shows, and the numbers of its rows under a name. -/
  | numbered (source name : String)
deriving Repr, DecidableEq

/-- How a block ends. -/
structure BlockTail where
  /-- The alias of the query inside. -/
  aliasName : Option String
  /-- The name of the number that the condition is about. -/
  subject : String
  /-- The condition. -/
  test : NumberTest
deriving Repr, DecidableEq

/-- The blocks that start in a text, the outermost first. -/
def readHeads : List String → Option (List BlockHead)
  | [] => some []
  | "SELECT" :: "*" :: "FROM" :: "(" :: rest => (readHeads rest).map (.star :: ·)
  | "SELECT" :: source :: "," :: "ROWNUM" :: "AS" :: name :: "FROM" :: "(" :: rest =>
    (readHeads rest).map (.numbered source name :: ·)
  | _ => none

/-- A comparison with a number. -/
def readTest (operator bound : String) : Option NumberTest :=
  match operator with
  | "<=" => (readNumber bound).map .atMost
  | ">=" => (readNumber bound).map .atLeast
  | _ => none

/-- The blocks that end in a text, the innermost first. -/
def readTails : List String → Option (List BlockTail)
  | [] => some []
  | ")" :: "WHERE" :: subject :: operator :: bound :: rest =>
    (readTest operator bound).bind fun test =>
      (readTails rest).map (⟨none, subject, test⟩ :: ·)
  | ")" :: name :: "WHERE" :: subject :: operator :: bound :: rest =>
    (readTest operator bound).bind fun test =>
      (readTails rest).map (⟨some name, subject, test⟩ :: ·)
  | _ => none

/-- The block with a start and an end.  Rows are numbered in a source that has its own alias. -/
def RowBlock.ofEnds (head : BlockHead) (tail : BlockTail) : Option RowBlock :=
  match head with
  | .star => some ⟨none, tail.subject, tail.test⟩
  | .numbered source name =>
    if tail.aliasName.map (· ++ ".*") = some source then
      some ⟨some name, tail.subject, tail.test⟩
    else none

/-- **The blocks around a query**, the innermost first, as the texts in front of the query and
behind it write them. -/
def readBlocks (front back : String) : Option (List RowBlock) := do
  let heads ← readHeads (Text.markedWords front)
  let tails ← readTails (Text.markedWords back)
  if heads.length = tails.length then
    (heads.reverse.zip tails).mapM fun ends => RowBlock.ofEnds ends.1 ends.2
  else none

end SqlBuilder
