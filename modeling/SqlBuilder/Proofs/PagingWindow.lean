import Mathlib.Data.UInt
import SqlBuilder.Proofs.BoundedChange
import SqlBuilder.Proofs.PagingReading

/-! # The rows that a paging clause keeps

Each dialect's clause for a limit and an offset is of the dialect's own idiom, so the dialect reads
it as it is meant (`PagingClause.readPaging_text`), and it keeps the rows that the bounds mean
(`Dialect.rows_selectPaging`, `Dialect.rows_changePaging`). -/

namespace SqlBuilder

namespace PagingClause

/-- The words of an optional count. -/
def countWords (before : List String) (n : Option UInt64) (after : List String) : List String :=
  match n with
  | some n => before ++ [countText n] ++ after
  | none => []

/-- The words of a clause. -/
def words : PagingClause → List String
  | .unpaged => []
  | .limitOffset limit offset =>
    (match limit with
      | some n => ["LIMIT", toString n]
      | none => []) ++ countWords ["OFFSET"] offset []
  | .top count => ["TOP", countText count]
  | .fetchNext offset count =>
    ["OFFSET", countText offset, "ROWS"] ++ countWords ["FETCH", "NEXT"] count ["ROWS", "ONLY"]
  | .fetchFirst offset count =>
    countWords ["OFFSET"] offset ["ROWS"] ++ countWords ["FETCH", "FIRST"] count ["ROWS", "ONLY"]
  | .firstSkip first skip => countWords ["FIRST"] first [] ++ countWords ["SKIP"] skip []
  | .rowsUpTo count => ["ROWS", countText count]
  | .rowsBetween lower upper => ["ROWS", countText lower, "TO", countText upper]

/-- The text of a clause, wherever it stands. -/
def text (paging : PagingClause) : String :=
  paging.beforeDistinct ++ paging.afterDistinct ++ paging.trailing

/-- A written count is a word. -/
theorem isWord_countText (n : UInt64) : IsWord (countText n) := isWord_toString_nat n.toNat

/-- The words of an optional count are words. -/
theorem isWord_of_mem_countWords {before after : List String} (hbefore : ∀ w ∈ before, IsWord w)
    (hafter : ∀ w ∈ after, IsWord w) (n : Option UInt64) :
    ∀ w ∈ countWords before n after, IsWord w := by
  cases n with
  | none => simp [countWords]
  | some n =>
    refine List.forall_mem_append.2 ⟨List.forall_mem_append.2 ⟨hbefore, ?_⟩, hafter⟩
    simpa using isWord_countText n

/-- What the words of a clause are made of are words. -/
theorem isWord_of_mem_words (paging : PagingClause) : ∀ w ∈ paging.words, IsWord w := by
  have hpair : ∀ {k w : String}, IsWord k → IsWord w → ∀ x ∈ [k, w], IsWord x := by
    intro k w hk hw
    simpa using ⟨hk, hw⟩
  cases paging with
  | unpaged => simp [words]
  | limitOffset limit offset =>
    refine List.forall_mem_append.2 ⟨?_, isWord_of_mem_countWords (by decide) (by decide) offset⟩
    cases limit with
    | none => simp
    | some n => exact hpair (by decide) (isWord_toString_int n)
  | top count => exact hpair (by decide) (isWord_countText count)
  | fetchNext offset count =>
    refine List.forall_mem_append.2 ⟨?_, isWord_of_mem_countWords (by decide) (by decide) count⟩
    exact List.forall_mem_cons.2 ⟨by decide, hpair (isWord_countText offset) (by decide)⟩
  | fetchFirst offset count =>
    exact List.forall_mem_append.2 ⟨isWord_of_mem_countWords (by decide) (by decide) offset,
      isWord_of_mem_countWords (by decide) (by decide) count⟩
  | firstSkip first skip =>
    exact List.forall_mem_append.2 ⟨isWord_of_mem_countWords (by decide) (by decide) first,
      isWord_of_mem_countWords (by decide) (by decide) skip⟩
  | rowsUpTo count => exact hpair (by decide) (isWord_countText count)
  | rowsBetween lower upper =>
    exact List.forall_mem_cons.2 ⟨by decide, List.forall_mem_cons.2 ⟨isWord_countText lower,
      hpair (by decide) (isWord_countText upper)⟩⟩

/-- A count at the end of a statement is written with its words behind blanks. -/
theorem countClause_eq_join (before after : List String) (n : Option UInt64) :
    countClause (String.join (before.map (" " ++ ·)) ++ " ") n (String.join (after.map (" " ++ ·)))
      = String.join ((countWords before n after).map (" " ++ ·)) := by
  cases n with
  | none => rfl
  | some n =>
    simp only [countClause, countWords, List.map_append, List.map_cons, List.map_nil,
      String.join_append, String.join_cons, String.join_nil, String.append_assoc,
      String.append_empty]

/-- A count at the head of a statement is written with its words in front of blanks. -/
theorem countClause_eq_join_head (word : String) (n : Option UInt64) :
    countClause (word ++ " ") n " " = String.join ((countWords [word] n []).map (· ++ " ")) := by
  cases n with
  | none => rfl
  | some n =>
    simp only [countClause, countWords, List.map_append, List.map_cons, List.map_nil,
      String.join_append, String.join_cons, String.join_nil, String.append_assoc,
      String.append_empty]

/-- **A clause stands at the end of a statement or at its head**, and is written with its words,
behind blanks at the end and in front of blanks at the head. -/
theorem stands_at_end_or_head (paging : PagingClause) :
    (paging.beforeDistinct = "" ∧ paging.afterDistinct = "" ∧
      paging.trailing = String.join (paging.words.map (" " ++ ·))) ∨
    (paging.trailing = "" ∧ paging.beforeDistinct ++ paging.afterDistinct
      = String.join (paging.words.map (· ++ " "))) := by
  cases paging with
  | unpaged => exact Or.inl ⟨rfl, rfl, rfl⟩
  | top count =>
    refine Or.inr ⟨rfl, ?_⟩
    exact String.empty_append.trans (countClause_eq_join_head "TOP" (some count))
  | firstSkip first skip =>
    refine Or.inr ⟨rfl, String.append_empty.trans ?_⟩
    have hfirst := countClause_eq_join_head "FIRST" first
    have hskip := countClause_eq_join_head "SKIP" skip
    rw [words, List.map_append, String.join_append, ← hfirst, ← hskip]
    rfl
  | limitOffset limit offset =>
    refine Or.inl ⟨rfl, rfl, ?_⟩
    have hoffset := countClause_eq_join ["OFFSET"] [] offset
    cases limit with
    | none => exact String.empty_append.trans hoffset
    | some n =>
      show _ = String.join ((["LIMIT", toString n] ++ countWords ["OFFSET"] offset []).map _)
      rw [List.map_append, String.join_append, ← hoffset]
      exact congrArg (· ++ countClause " OFFSET " offset "") (String.toList_inj.1 (by simp))
  | fetchNext offset count =>
    refine Or.inl ⟨rfl, rfl, ?_⟩
    have hoffset := countClause_eq_join ["OFFSET"] ["ROWS"] (some offset)
    have hcount := countClause_eq_join ["FETCH", "NEXT"] ["ROWS", "ONLY"] count
    rw [words, List.map_append, String.join_append, ← hcount]
    exact congrArg (· ++ _) hoffset
  | fetchFirst offset count =>
    refine Or.inl ⟨rfl, rfl, ?_⟩
    have hoffset := countClause_eq_join ["OFFSET"] ["ROWS"] offset
    have hcount := countClause_eq_join ["FETCH", "FIRST"] ["ROWS", "ONLY"] count
    rw [words, List.map_append, String.join_append, ← hoffset, ← hcount]
    rfl
  | rowsUpTo count =>
    refine Or.inl ⟨rfl, rfl, ?_⟩
    exact String.append_empty.symm.trans (countClause_eq_join ["ROWS"] [] (some count))
  | rowsBetween lower upper =>
    exact Or.inl ⟨rfl, rfl, String.toList_inj.1 (by simp [trailing, words])⟩

/-- The part of a clause at the end is empty or set apart by a blank. -/
theorem trailing_cases (paging : PagingClause) :
    paging.trailing = "" ∨ ∃ k, paging.trailing = " " ++ k := by
  rcases paging.stands_at_end_or_head with ⟨-, -, h⟩ | ⟨h, -⟩
  · rw [h]
    exact Text.join_leading_cases paging.words
  · exact Or.inl h

/-- The part of a clause at the head is empty or set apart by a blank. -/
theorem head_cases (paging : PagingClause) :
    paging.beforeDistinct ++ paging.afterDistinct = "" ∨
      ∃ k, paging.beforeDistinct ++ paging.afterDistinct = k ++ " " := by
  rcases paging.stands_at_end_or_head with ⟨hbefore, hafter, -⟩ | ⟨-, h⟩
  · rw [hbefore, hafter]
    exact Or.inl rfl
  · rw [h]
    exact Text.join_trailing_cases paging.words

/-- **The words of the text of a clause.** -/
theorem words_text (paging : PagingClause) : Text.words paging.text = paging.words := by
  rcases paging.stands_at_end_or_head with ⟨hbefore, hafter, h⟩ | ⟨htrailing, h⟩
  · rw [text, hbefore, hafter, String.empty_append, String.empty_append, h,
      Text.words_join_leading paging.isWord_of_mem_words]
  · rw [text, htrailing, String.append_empty, h,
      Text.words_join_trailing paging.isWord_of_mem_words]

/-! ## Meaning -/

/-- What a clause means. -/
def meaning : PagingClause → PagingMeaning
  | .unpaged => .window 0 none
  | .limitOffset limit offset =>
    .window ((offset.map UInt64.toNat).getD 0)
      (limit.bind fun n => if n < 0 then none else some n.toNat)
  | .top count => .window 0 (some count.toNat)
  | .fetchNext offset count => .window offset.toNat (count.map UInt64.toNat)
  | .fetchFirst offset count | .firstSkip count offset =>
    .window ((offset.map UInt64.toNat).getD 0) (count.map UInt64.toNat)
  | .rowsUpTo count => .numbered 1 count.toNat
  | .rowsBetween lower upper => .numbered lower.toNat upper.toNat

/-- A limit is read from its digits. -/
theorem readLimit_toString (n : Int) :
    readLimit (toString n) = some (if n < 0 then none else some n.toNat) := by
  cases n with
  | ofNat m => exact readLimit_toString_ofNat m
  | negSucc m => rw [readLimit_toString_negSucc, if_pos (Int.negSucc_lt_zero m)]

/-- A limit that is not negative is read as a count. -/
theorem readCount_toString {n : Int} (hn : 0 ≤ n) :
    readCount (toString n) = some (if n < 0 then none else some n.toNat) := by
  obtain ⟨m, rfl⟩ := Int.eq_ofNat_of_zero_le hn
  have htext : toString (m : Int) = toString m := rfl
  rw [readCount, htext, readNumber_toString, if_neg (by omega), Option.map_some, Int.toNat_natCast]

/-- A count is read from its digits. -/
theorem readNumber_countText (n : UInt64) : readNumber (countText n) = some n.toNat :=
  readNumber_toString n.toNat

/-- LIMIT with an optional OFFSET is read as it is meant if the limit is. -/
theorem readLimitOffset_words {limit : String → Option (Option Nat)} {n : Int}
    (hlimit : limit (toString n) = some (if n < 0 then none else some n.toNat))
    (offset : Option UInt64) :
    readLimitOffset limit (words (.limitOffset (some n) offset))
      = some (meaning (.limitOffset (some n) offset)) := by
  cases offset with
  | none =>
    show (limit (toString n)).map _ = _
    rw [hlimit]
    rfl
  | some m =>
    show (limit (toString n)).bind _ = _
    rw [hlimit, Option.bind_some, readNumber_countText]
    rfl

/-- LIMIT and OFFSET are read as they are meant, unless both are missing. -/
theorem readLimitOrOffset_words {limit : Option Int} (hlimit : ∀ n ∈ limit, 0 ≤ n)
    {offset : Option UInt64} (hwords : words (.limitOffset limit offset) ≠ []) :
    readLimitOrOffset (words (.limitOffset limit offset))
      = some (meaning (.limitOffset limit offset)) := by
  cases limit with
  | none =>
    cases offset with
    | none => exact absurd rfl hwords
    | some m =>
      show (readNumber (countText m)).map _ = _
      rw [readNumber_countText]
      rfl
  | some n =>
    have hrest : readLimitOrOffset (words (.limitOffset (some n) offset))
        = readLimitOffset readCount (words (.limitOffset (some n) offset)) := by
      cases offset <;> rfl
    rw [hrest, readLimitOffset_words (readCount_toString (hlimit n rfl))]

/-- TOP is read as it is meant. -/
theorem readTop_words (count : UInt64) :
    readTop (words (.top count)) = some (meaning (.top count)) := by
  simp [words, readTop, meaning, readNumber_countText]

/-- OFFSET with an optional FETCH NEXT is read as it is meant. -/
theorem readFetchNext_words (offset : UInt64) (count : Option UInt64) :
    readFetchNext (words (.fetchNext offset count)) = some (meaning (.fetchNext offset count)) := by
  cases count <;> simp [words, countWords, readFetchNext, meaning, readNumber_countText]

/-- OFFSET and FETCH FIRST are read as they are meant, unless both are missing. -/
theorem readFetchFirst_words {offset count : Option UInt64}
    (hwords : words (.fetchFirst offset count) ≠ []) :
    readFetchFirst (words (.fetchFirst offset count))
      = some (meaning (.fetchFirst offset count)) := by
  cases offset <;> cases count <;>
    first
    | exact absurd rfl hwords
    | simp [words, countWords, readFetchFirst, meaning, readNumber_countText]

/-- FIRST and SKIP are read as they are meant, unless both are missing. -/
theorem readFirstSkip_words {first skip : Option UInt64}
    (hwords : words (.firstSkip first skip) ≠ []) :
    readFirstSkip (words (.firstSkip first skip)) = some (meaning (.firstSkip first skip)) := by
  cases first <;> cases skip <;>
    first
    | exact absurd rfl hwords
    | simp [words, countWords, readFirstSkip, meaning, readNumber_countText]

/-- ROWS is read as it is meant. -/
theorem readRows_words {paging : PagingClause}
    (h : (∃ n, paging = .rowsUpTo n) ∨ ∃ a b, paging = .rowsBetween a b) :
    readRows paging.words = some paging.meaning := by
  rcases h with ⟨n, rfl⟩ | ⟨a, b, rfl⟩ <;> simp [words, readRows, meaning, readNumber_countText]

/-- **Whether a clause is of the idiom of a dialect** for a place.  A limit that stands for none is
negative in one dialect only, and an offset needs a limit in three. -/
def IsOf (d : Dialect) (place : PagingPlace) (paging : PagingClause) : Prop :=
  match d, place, paging with
  | _, _, .unpaged => True
  | .standard, .tail, .limitOffset limit _ | .postgreSql, .tail, .limitOffset limit _ =>
    ∀ n ∈ limit, 0 ≤ n
  | .mariaDb, .tail, .limitOffset limit offset | .mySql, .tail, .limitOffset limit offset =>
    (∀ n ∈ limit, 0 ≤ n) ∧ (limit = none → offset = none)
  | .sqlite, .tail, .limitOffset limit offset => limit = none → offset = none
  | .msSql, .head, .top _ | .msSql, .tail, .fetchNext _ _ | .db2, .tail, .fetchFirst _ _
  | .firebird, .head, .firstSkip _ _ | .firebird, .tail, .rowsUpTo _
  | .firebird, .tail, .rowsBetween _ _ => True
  | _, _, _ => False

/-- A clause without words keeps every row. -/
theorem meaning_of_words_eq_nil {paging : PagingClause} (h : paging.words = []) :
    paging.meaning = .window 0 none := by
  cases paging with
  | limitOffset limit offset => cases limit <;> cases offset <;> first | rfl | cases h
  | fetchFirst offset count => cases offset <;> cases count <;> first | rfl | cases h
  | firstSkip first skip => cases first <;> cases skip <;> first | rfl | cases h
  | unpaged => rfl
  | top | fetchNext | rowsUpTo | rowsBetween => cases h

/-- **A clause of its own idiom is read by a dialect as it is meant.** -/
theorem readPaging_text {d : Dialect} {place : PagingPlace} {paging : PagingClause}
    (h : paging.IsOf d place) : d.readPaging place paging.text = some paging.meaning := by
  rw [Dialect.readPaging, words_text]
  unfold Dialect.meaningOfWords
  by_cases hwords : paging.words = []
  · rw [meaning_of_words_eq_nil hwords, hwords]
    rfl
  rw [if_neg (by simpa using hwords)]
  -- Each clause is of the idiom of few dialects, at one place.
  cases paging with
  | unpaged => exact absurd rfl hwords
  | limitOffset limit offset =>
    have hlimited : (limit = none → offset = none) → ∃ n, limit = some n := by
      intro hoffset
      cases limit with
      | none => exact absurd (congrArg (fun o => words (.limitOffset none o)) (hoffset rfl)) hwords
      | some n => exact ⟨n, rfl⟩
    cases d <;> cases place <;> try exact h.elim
    case standard.tail | postgreSql.tail => exact readLimitOrOffset_words h hwords
    case mariaDb.tail | mySql.tail =>
      obtain ⟨n, rfl⟩ := hlimited h.2
      exact readLimitOffset_words (readCount_toString (h.1 n rfl)) offset
    case sqlite.tail =>
      obtain ⟨n, rfl⟩ := hlimited h
      exact readLimitOffset_words (readLimit_toString n) offset
  | top count => cases d <;> cases place <;> first | exact h.elim | exact readTop_words count
  | fetchNext offset count =>
    cases d <;> cases place <;> first | exact h.elim | exact readFetchNext_words offset count
  | fetchFirst offset count =>
    cases d <;> cases place <;> first | exact h.elim | exact readFetchFirst_words hwords
  | firstSkip first skip =>
    cases d <;> cases place <;> first | exact h.elim | exact readFirstSkip_words hwords
  | rowsUpTo n =>
    cases d <;> cases place <;> first | exact h.elim | exact readRows_words (.inl ⟨n, rfl⟩)
  | rowsBetween a b =>
    cases d <;> cases place <;> first | exact h.elim | exact readRows_words (.inr ⟨a, b, rfl⟩)

end PagingClause

/-! ## Windows -/

/-- The sum that saturates is the sum, or the largest number. -/
theorem toNat_saturatingAdd (a b : UInt64) :
    (saturatingAdd a b).toNat = min (a.toNat + b.toNat) (2 ^ 64 - 1) := by
  have hsize : UInt64.size = 2 ^ 64 := rfl
  have hlargest : (UInt64.ofNat (UInt64.size - 1)).toNat = 2 ^ 64 - 1 := by decide
  rw [saturatingAdd]
  split
  · next h =>
    rw [UInt64.toNat_add, Nat.mod_eq_of_lt h]
    omega
  · next h =>
    rw [hlargest]
    omega

/-- A bound that is present is at least one. -/
theorem one_le_toNat {a : UInt64} (ha : a > 0) : 1 ≤ a.toNat :=
  Nat.succ_le_of_lt (UInt64.lt_iff_toNat_lt.1 ha)

/-- One can be taken from a sum of which one part is present. -/
theorem one_le_saturatingAdd {a : UInt64} (ha : a > 0) (b : UInt64) : 1 ≤ saturatingAdd a b := by
  have hone := one_le_toNat ha
  rw [UInt64.le_iff_toNat_le, toNat_saturatingAdd, UInt64.toNat_one]
  omega

/-- A sum less one, of which one part is present. -/
theorem toNat_saturatingAdd_sub_one {a : UInt64} (ha : a > 0) (b : UInt64) :
    (saturatingAdd a b - 1).toNat = min (a.toNat + b.toNat) (2 ^ 64 - 1) - 1 := by
  rw [UInt64.toNat_sub_of_le _ _ (one_le_saturatingAdd ha b), toNat_saturatingAdd,
    UInt64.toNat_one]

/-! ### Idioms -/

/-- A present limit is not negative. -/
theorem limitOf_nonneg (limit : UInt64) : ∀ n ∈ limitOf limit, 0 ≤ n := by
  intro n hn
  obtain ⟨m, -, rfl⟩ := Option.map_eq_some_iff.1 (Option.mem_def.1 hn)
  exact Int.natCast_nonneg _

/-- A limit that is not negative where it stands for all rows is never negative. -/
theorem limitWith_nonneg {all : Int} (hall : 0 ≤ all) (limit offset : UInt64) :
    ∀ n ∈ limitWith all limit offset, 0 ≤ n := by
  intro n hn
  rw [limitWith] at hn
  split at hn
  · split at hn
    · cases hn
    · obtain rfl : all = n := Option.some.inj hn
      exact hall
  · exact limitOf_nonneg limit n hn

/-- Without a limit, no rows are skipped. -/
theorem nonzero_eq_none_of_limitWith {all : Int} {limit offset : UInt64}
    (h : limitWith all limit offset = none) : nonzero offset = none := by
  by_cases ho : offset = 0
  · rw [ho, nonzero_zero]
  · by_cases hl : limit = 0 <;> simp [limitWith, limitOf, nonzero, hl, ho] at h

/-- The ROWS clause in its three forms. -/
theorem rowsClause_cases (limit offset : UInt64) :
    rowsClause limit offset = .unpaged ∨ (∃ n, rowsClause limit offset = .rowsUpTo n) ∨
      ∃ a b, rowsClause limit offset = .rowsBetween a b := by
  rw [rowsClause]
  split
  · cases nonzero limit with
    | none => exact Or.inl rfl
    | some n => exact Or.inr (Or.inl ⟨n, rfl⟩)
  · split
    · exact Or.inr (Or.inr ⟨_, _, rfl⟩)
    · exact Or.inr (Or.inr ⟨_, _, rfl⟩)

/-- **The paging clause of a SELECT is of the dialect's idiom** for the end, in the dialects that
have it nowhere else. -/
theorem Dialect.isOf_selectPaging {d : Dialect} (hmsSql : d ≠ .msSql) (hfirebird : d ≠ .firebird)
    (limit offset : UInt64) : (d.selectPaging limit offset).IsOf d .tail := by
  have hall : 0 ≤ allRows := by decide
  cases d
  case msSql => exact absurd rfl hmsSql
  case firebird => exact absurd rfl hfirebird
  case standard | postgreSql => exact limitOf_nonneg limit
  case mariaDb | mySql =>
    exact ⟨limitWith_nonneg hall limit offset, nonzero_eq_none_of_limitWith⟩
  case sqlite => exact nonzero_eq_none_of_limitWith
  case db2 | oracle => trivial

/-- **The paging clause of a change is of the dialect's idiom** for the end. -/
theorem Dialect.isOf_changePaging (d : Dialect) (limit offset : UInt64) :
    (d.changePaging limit offset).IsOf d .tail := by
  cases d
  case standard => exact limitOf_nonneg limit
  case mariaDb | mySql => exact ⟨limitOf_nonneg limit, fun _ => rfl⟩
  case firebird =>
    rw [Dialect.changePaging]
    rcases rowsClause_cases limit offset with h | ⟨n, h⟩ | ⟨a, b, h⟩ <;> rw [h] <;> trivial
  all_goals trivial

/-! ### Rows -/

section Rows

variable {α : Type} {rows : List α}

/-- A limit and an offset, each present unless zero, mean the window of the bounds. -/
theorem rows_window (limit offset : UInt64) :
    PagingMeaning.rows (.window (((nonzero offset).map UInt64.toNat).getD 0)
      ((nonzero limit).map UInt64.toNat)) rows = keptRows limit offset rows := by
  have hskip : ((nonzero offset).map UInt64.toNat).getD 0 = offset.toNat := by
    by_cases ho : offset = 0
    · subst ho; rfl
    · simp [nonzero, ho]
  rw [hskip]
  by_cases hl : limit = 0
  · subst hl
    exact (keptRows_zero offset rows).symm
  · rw [nonzero, if_neg hl]
    exact (keptRows_of_ne_zero hl offset rows).symm

/-- **The ROWS clause keeps the window of the bounds.** Where a bound saturates, it is beyond the
rows. -/
theorem rows_rowsClause (limit offset : UInt64) (h : rows.length < 2 ^ 63) :
    (rowsClause limit offset).meaning.rows rows = keptRows limit offset rows := by
  have hlow := toNat_saturatingAdd offset 1
  have hhigh := toNat_saturatingAdd offset limit
  have hone : (1 : UInt64).toNat = 1 := rfl
  rw [rowsClause]
  by_cases ho : offset = 0
  · subst ho
    by_cases hl : limit = 0
    · subst hl
      exact (keptRows_zero 0 rows).symm
    · rw [if_pos rfl, nonzero, if_neg hl, keptRows_of_ne_zero hl]
      refine PagingMeaning.rows_numbered_eq_take_drop (fun i _ => ?_) fun i _ => ?_
      · rw [UInt64.toNat_zero]
        omega
      · rw [UInt64.toNat_zero]
        omega
  · rw [if_neg ho]
    -- A sum that saturates is larger than every number of a row, as the exact sum is.
    by_cases hl : limit = 0
    · subst hl
      have hlast : lastRow.toNat = 2 ^ 63 - 1 := by decide
      rw [if_pos rfl, keptRows_zero]
      exact PagingMeaning.rows_numbered_eq_drop (fun i _ => by omega) (by omega)
    · rw [if_neg hl, keptRows_of_ne_zero hl]
      exact PagingMeaning.rows_numbered_eq_take_drop (fun i _ => by omega) fun i _ => by omega

/-- A limit that is present unless zero means so many rows. -/
theorem limitOf_bind (limit : UInt64) :
    ((limitOf limit).bind fun n => if n < 0 then none else some n.toNat)
      = (nonzero limit).map UInt64.toNat := by
  rw [limitOf]
  cases nonzero limit <;> simp

/-- A limit that stands for all rows, in the dialects that cannot skip rows without one, admits
every row. -/
theorem rows_limitWith {all : Int} (hall : all < 0 ∨ all = allRows) (limit offset : UInt64)
    (h : rows.length < 2 ^ 63) :
    (PagingClause.limitOffset (limitWith all limit offset) (nonzero offset)).meaning.rows rows
      = keptRows limit offset rows := by
  rw [PagingClause.meaning, limitWith]
  by_cases hl : limit = 0
  · subst hl
    by_cases ho : offset = 0
    · subst ho
      exact (keptRows_zero 0 rows).symm
    · rw [if_pos rfl, if_neg ho, nonzero, if_neg ho, keptRows_zero]
      rcases hall with hneg | rfl
      · simp [hneg, PagingMeaning.rows]
      · -- No row list is as long as the limit.
        have htake : (rows.drop offset.toNat).take allRows.toNat = rows.drop offset.toNat := by
          refine List.take_of_length_le ?_
          rw [List.length_drop, allRows]
          omega
        exact htake
  · rw [if_neg hl, limitOf_bind]
    exact rows_window limit offset

/-- **The paging clause of a SELECT keeps the window of its bounds**, in every dialect but the one
that numbers rows. -/
theorem Dialect.rows_selectPaging {d : Dialect} (hd : d ≠ .oracle) (limit offset : UInt64)
    (h : rows.length < 2 ^ 63) :
    (d.selectPaging limit offset).meaning.rows rows = keptRows limit offset rows := by
  cases d
  case oracle => exact absurd rfl hd
  case standard | postgreSql =>
    rw [Dialect.selectPaging, PagingClause.meaning, limitOf_bind]
    exact rows_window limit offset
  case mariaDb | mySql => exact rows_limitWith (Or.inr rfl) limit offset h
  case sqlite => exact rows_limitWith (Or.inl (by decide)) limit offset h
  case db2 | firebird => exact rows_window limit offset
  case msSql =>
    rw [← rows_window, Dialect.selectPaging]
    -- Without an offset the clause is TOP, with one it is OFFSET and FETCH.
    by_cases ho : offset = 0
    · subst ho
      rw [if_pos rfl]
      cases nonzero limit <;> rfl
    · simp [ho, nonzero, PagingClause.meaning]

/-- **The paging clause at the end of a change keeps the window of its bounds**, if it is a dialect
with such a clause and the dialect can skip rows or none are to be skipped. -/
theorem Dialect.rows_changePaging {d : Dialect} (hd : d.bounding = .trailing)
    {limit offset : UInt64} (hskip : d.skipsRows = true ∨ offset = 0)
    (h : rows.length < 2 ^ 63) :
    (d.changePaging limit offset).meaning.rows rows = keptRows limit offset rows := by
  cases d
  case standard =>
    rw [Dialect.changePaging, PagingClause.meaning, limitOf_bind]
    exact rows_window limit offset
  case mariaDb | mySql =>
    obtain rfl : offset = 0 := hskip.resolve_left (by decide)
    rw [Dialect.changePaging, PagingClause.meaning, limitOf_bind]
    exact rows_window limit 0
  case firebird => exact rows_rowsClause limit offset h
  all_goals cases hd

end Rows

end SqlBuilder
