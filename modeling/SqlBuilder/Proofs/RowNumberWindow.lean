import SqlBuilder.Proofs.Combination
import SqlBuilder.Proofs.FilteredChange
import SqlBuilder.Proofs.RowNumbers

/-! # Windows of numbered rows

In the dialect that numbers rows, an offset is the number of the first row that is kept
(`rowsFromNumber`).  The blocks around a bounded query keep these rows if there is a limit, and also
if there is none and the first row is number one.  Without a limit and with a later first row they
keep no row at all, as the rows before it get no numbers (`bounds_number_rows`). -/

namespace SqlBuilder

/-! ## The rows that the bounds promise -/

/-- **The rows that a limit and the number of the first row keep**: those with the numbers from
`offset` to `offset + limit - 1`, or all from `offset` on if the limit is zero.  An offset of zero
stands for the first row. -/
def rowsFromNumber {α : Type} (limit offset : UInt64) (rows : List α) : List α :=
  numberedRows (fun i => decide (max offset.toNat 1 ≤ i) &&
    (decide (limit = 0) || decide (i ≤ max offset.toNat 1 + limit.toNat - 1))) rows

/-- Whether bounds are written so that they keep the rows that they promise, of so many rows: there
is a limit, or the first row is kept, or there is no row to keep. -/
def WindowHolds (limit offset : UInt64) (count : Nat) : Prop :=
  limit ≠ 0 ∨ offset.toNat ≤ 1 ∨ count < offset.toNat

section Rows

variable {α : Type} {rows : List α}

/-- Without a limit, all rows from the first one on are kept. -/
theorem rowsFromNumber_zero (offset : UInt64) (rows : List α) :
    rowsFromNumber 0 offset rows = rows.drop (offset.toNat - 1) := by
  refine numberedRows_eq_drop (fun i hi hle => ?_) fun i hi hle => ?_
  · -- Numbers start at one, so zero is the number of no row.
    simp
    omega
  · simp
    omega

/-- With a limit, so many rows from the first one on are kept. -/
theorem rowsFromNumber_of_ne_zero {limit : UInt64} (h : limit ≠ 0) (offset : UInt64)
    (rows : List α) :
    rowsFromNumber limit offset rows = (rows.drop (offset.toNat - 1)).take limit.toNat := by
  have hpos : 1 ≤ limit.toNat := one_le_toNat (UInt64.pos_iff_ne_zero.2 h)
  refine numberedRows_eq_take_drop (fun i hi hle => ?_) (fun i hi hn hle => ?_) fun i hi hle => ?_
  · simp
    omega
  · simp [h]
    omega
  · simp [h]
    omega

/-! ## The blocks of a window -/

namespace RowWindow

/-- The blocks of a window: the outer one of two tests the numbers that the inner one shows. -/
def blocks : RowWindow → List RowBlock
  | .all => []
  | .upTo upper => [⟨none, rowNumber, .atMost upper.toNat⟩]
  | .fromOn lower => [⟨none, rowNumber, .atLeast lower.toNat⟩]
  | .between lower upper =>
    [⟨some "\"rn\"", rowNumber, .atMost upper.toNat⟩, ⟨none, "\"rn\"", .atLeast lower.toNat⟩]

/-- The words of a condition that ends with a number. -/
theorem markedWords_condition (condition : String) (n : UInt64) :
    Text.markedWords (condition ++ " " ++ countText n)
      = Text.markedWords condition ++ [countText n] := by
  rw [String.append_assoc, Text.markedWords_append_blank, Text.markedWords_countText]

/-- The words behind a query in two blocks. -/
theorem markedWords_back_between (lower upper : UInt64) :
    Text.markedWords (back (.between lower upper))
      = [")", "\"t0\"", "WHERE", "ROWNUM", "<=", countText upper, ")", "WHERE", "\"rn\"", ">=",
        countText lower] := by
  have htext : back (.between lower upper) = ") \"t0\" WHERE ROWNUM <=" ++ " " ++ countText upper
      ++ (")" ++ (" WHERE \"rn\" >=" ++ " " ++ countText lower)) := by
    have hcondition : ") \"t0\" WHERE ROWNUM <= " = ") \"t0\" WHERE ROWNUM <=" ++ " " := by decide
    have hclosing : ") WHERE \"rn\" >= " = ")" ++ (" WHERE \"rn\" >=" ++ " ") := by decide
    unfold back
    rw [hcondition, hclosing]
    simp only [String.append_assoc]
  have hinner : Text.markedWords ") \"t0\" WHERE ROWNUM <="
      = [")", "\"t0\"", "WHERE", "ROWNUM", "<="] := by decide
  have houter : Text.markedWords " WHERE \"rn\" >=" = ["WHERE", "\"rn\"", ">="] := by decide
  rw [htext, Text.markedWords_append_closing, markedWords_condition, markedWords_condition, hinner,
    houter]
  rfl

/-- **The blocks of a window are read off its texts.** -/
theorem readBlocks_front_back (w : RowWindow) : readBlocks w.front w.back = some w.blocks := by
  have hnumber : ∀ n : UInt64, readNumber (countText n) = some n.toNat :=
    fun n => readNumber_toString n.toNat
  have hfront : Text.markedWords "SELECT * FROM (" = ["SELECT", "*", "FROM", "("] := by decide
  cases w with
  | all => rfl
  | upTo upper =>
    have hback : Text.markedWords (back (.upTo upper))
        = [")", "WHERE", "ROWNUM", "<=", countText upper] :=
      markedWords_condition ") WHERE ROWNUM <=" upper
    rw [readBlocks, hback, front, hfront]
    simp [readHeads, readTails, readTest, hnumber, blocks, RowBlock.ofEnds, rowNumber]
  | fromOn lower =>
    have hback : Text.markedWords (back (.fromOn lower))
        = [")", "WHERE", "ROWNUM", ">=", countText lower] :=
      markedWords_condition ") WHERE ROWNUM >=" lower
    rw [readBlocks, hback, front, hfront]
    simp [readHeads, readTails, readTest, hnumber, blocks, RowBlock.ofEnds, rowNumber]
  | between lower upper =>
    have hfronts : Text.markedWords "SELECT * FROM (SELECT \"t0\".*, ROWNUM AS \"rn\" FROM ("
        = ["SELECT", "*", "FROM", "(", "SELECT", "\"t0\".*", ",", "ROWNUM", "AS", "\"rn\"", "FROM",
          "("] := by decide
    rw [readBlocks, markedWords_back_between, front, hfronts]
    simp [readHeads, readTails, readTest, hnumber, blocks, RowBlock.ofEnds, rowNumber]

/-- **The rows that a window keeps.** -/
theorem rowsOfBlocks_blocks (w : RowWindow) (rows : List α) :
    rowsOfBlocks w.blocks rows = match w with
      | .all => rows
      | .upTo upper => rows.take upper.toNat
      | .fromOn lower => if lower.toNat ≤ 1 then rows else []
      | .between lower upper =>
        numberedRows (fun i => decide (lower.toNat ≤ i)) (rows.take upper.toNat) := by
  have hvalues : ∀ rows : List α,
      (rows.map fun row => (⟨row, []⟩ : NumberedRow α)).map NumberedRow.value = rows := by
    intro rows
    rw [List.map_map]
    exact List.map_id rows
  cases w with
  | all => exact hvalues rows
  | upTo upper =>
    rw [rowsOfBlocks, blocks, List.foldl_cons, List.foldl_nil, RowBlock.rowsFrom_atMost rfl rfl]
    -- The block shows no numbers.
    show (List.map Prod.fst _).map NumberedRow.value = _
    rw [List.zipIdx_map_fst, Nat.add_sub_cancel, ← List.map_take, hvalues]
  | fromOn lower =>
    rw [rowsOfBlocks, blocks, List.foldl_cons, List.foldl_nil,
      RowBlock.rowsFrom_atLeast rfl rfl rfl]
    dsimp only
    split
    · exact hvalues rows
    · rfl
  | between lower upper =>
    -- The outer block tests what the inner one shows, and not the numbers of its own rows.
    have hname : "\"rn\"" ≠ rowNumber := by decide
    rw [rowsOfBlocks, blocks, List.foldl_cons, List.foldl_cons, List.foldl_nil,
      RowBlock.rowsFrom_shown hname rfl, RowBlock.rowsFrom_atMost (n := upper.toNat) rfl rfl,
      Nat.add_sub_cancel, ← List.map_take, List.zipIdx_map, List.map_map, List.filter_map,
      List.map_map]
    rfl

/-- **The rows that the bounds keep** are those that they promise, or none if there is no limit and
the first row has a later number than one. -/
theorem rowsOfBlocks_ofBounds (limit offset : UInt64) (h : rows.length < 2 ^ 63) :
    rowsOfBlocks (ofBounds limit offset).blocks rows
      = if limit = 0 ∧ 1 < offset.toNat then [] else rowsFromNumber limit offset rows := by
  rw [rowsOfBlocks_blocks, ofBounds]
  by_cases ho : offset = 0
  · subst ho
    rw [if_pos rfl, if_neg (by simp)]
    by_cases hl : limit = 0
    · subst hl
      exact (rowsFromNumber_zero 0 rows).symm
    · rw [nonzero, if_neg hl]
      exact (rowsFromNumber_of_ne_zero hl 0 rows).symm
  · rw [if_neg ho]
    have hpresent : offset > 0 := UInt64.pos_iff_ne_zero.2 ho
    have hpos : 1 ≤ offset.toNat := one_le_toNat hpresent
    by_cases hl : limit = 0
    · subst hl
      rw [if_pos rfl, rowsFromNumber_zero]
      by_cases hone : 1 < offset.toNat
      · rw [if_pos ⟨rfl, hone⟩]
        exact if_neg (by omega)
      · have hfirst : offset.toNat - 1 = 0 := by omega
        rw [if_neg fun hboth => hone hboth.2, hfirst]
        exact if_pos (by omega)
    · have hupper : rows.take (saturatingAdd offset limit - 1).toNat
          = rows.take (offset.toNat - 1 + limit.toNat) := by
        -- A sum that saturates is larger than every number of a row.
        rw [toNat_saturatingAdd_sub_one hpresent]
        by_cases hfit : offset.toNat + limit.toNat < 2 ^ 64
        · exact congrArg rows.take (by omega)
        · rw [List.take_of_length_le (by omega), List.take_of_length_le (by omega)]
      rw [if_neg hl, if_neg fun hboth => hl hboth.1, rowsFromNumber_of_ne_zero hl, List.take_drop]
      dsimp only
      rw [hupper]
      refine numberedRows_eq_drop (fun i hi _ => ?_) fun i hi _ => ?_
      · simp
        omega
      · simp
        omega

end RowWindow

end Rows

/-! ## Bounded statements -/

/-- **A query with the blocks of its bounds around it.** The blocks keep the rows that the bounds
promise exactly if the bounds are written so that they hold, and no row otherwise. -/
def NumbersRows (limit offset : UInt64) (plain bounded : String) : Prop :=
  ∃ front back blocks, bounded = front ++ plain ++ back ∧ readBlocks front back = some blocks ∧
    ∀ {α : Type} (rows : List α), rows.length < 2 ^ 63 →
      (rowsOfBlocks blocks rows = rowsFromNumber limit offset rows ↔
        WindowHolds limit offset rows.length) ∧
      (¬ WindowHolds limit offset rows.length → rowsOfBlocks blocks rows = [])

/-- Bounds stand around the query that they bound. -/
theorem numbersRows_window (limit offset : UInt64) (sql : String) :
    NumbersRows limit offset sql (Dialect.oracle.window limit offset sql) := by
  refine ⟨_, _, _, (RowWindow.ofBounds limit offset).wrap_eq sql, RowWindow.readBlocks_front_back _,
    fun {α} rows hrows => ?_⟩
  rw [RowWindow.rowsOfBlocks_ofBounds limit offset hrows, WindowHolds]
  by_cases hlost : limit = 0 ∧ 1 < offset.toNat
  · obtain ⟨rfl, hlater⟩ := hlost
    rw [if_pos ⟨rfl, hlater⟩, rowsFromNumber_zero]
    refine ⟨?_, fun _ => rfl⟩
    -- No row is lost if there is none from the first one on.
    rw [eq_comm, List.drop_eq_nil_iff]
    constructor
    · intro hle
      exact Or.inr (Or.inr (by omega))
    · rintro (hl | ho | hc)
      · exact absurd rfl hl
      · omega
      · omega
  · rw [if_neg hlost]
    have hholds : limit ≠ 0 ∨ offset.toNat ≤ 1 ∨ rows.length < offset.toNat := by
      by_cases hl : limit = 0
      · exact Or.inr (Or.inl (by simpa [hl] using hlost))
      · exact Or.inl hl
    exact ⟨iff_of_true rfl hholds, fun hnot => absurd hholds hnot⟩

/-- **A SELECT with bounds is the SELECT without bounds in the window of its bounds.** -/
theorem SelectBlock.alike_window (b : SelectBlock) {R : String → String → Prop}
    (hwindow : ∀ sql, R sql (Dialect.oracle.window b.limit b.offset sql)) :
    ResultAlike R (b.unpaged.render .oracle) (b.render .oracle) := by
  rw [SelectBlock.render, SelectBlock.render]
  refine (ResultAlike.refl (R := Eq) (fun _ => rfl) b.filter.whereClause).bind ?_
  rintro filter _ rfl
  refine (ResultAlike.refl (R := Eq) (fun _ => rfl) b.having.havingClause).bind ?_
  rintro having _ rfl
  exact .ok (hwindow _)

/-- **A SELECT with bounds is the SELECT without bounds in the blocks of its bounds.** -/
theorem SelectBlock.numbersRows_render (b : SelectBlock) :
    ResultAlike (NumbersRows b.limit b.offset) (b.unpaged.render .oracle) (b.render .oracle) :=
  b.alike_window (numbersRows_window b.limit b.offset)

/-- **The rows of bounded statements in the dialect that numbers rows.** A SELECT is its text
without bounds in the blocks of its bounds, in front of the queries combined with it.  A bounded
UPDATE or DELETE acts on such a SELECT.  The blocks keep the rows from number `offset` to number
`offset + limit - 1`; without a limit they do so only if the first row is number one or there is no
row to keep, and otherwise they keep no row. -/
theorem bounds_number_rows {limit offset : UInt64} (hbounds : limit > 0 ∨ offset > 0) :
    -- SELECT.
    (∀ q : Query, q.block.limit = limit → q.block.offset = offset →
      q.render .oracle = joined (q.block.render .oracle) (Query.renderParts .oracle q.combined) ∧
      ResultAlike (NumbersRows limit offset) (q.block.unpaged.render .oracle)
        (q.block.render .oracle)) ∧
    -- UPDATE and DELETE.
    ∀ (t : TableRef) (statement : RowScope → DbResult String), IsChangeOf .oracle t statement →
      ∀ (filter : Predicates) (ordering : List String), ∃ columns front back,
        let scope : RowScope := ⟨filter, ordering, limit, offset⟩
        let block := (scope.query columns (t.render .oracle)).block
        statement scope = (block.render .oracle).map (fun rows => front ++ rows ++ back) ∧
        ResultAlike (NumbersRows limit offset) (block.unpaged.render .oracle)
          (block.render .oracle) := by
  refine ⟨fun q hlimit hoffset => ?_, fun t statement hstatement filter ordering => ?_⟩
  · subst hlimit hoffset
    obtain ⟨block, combined⟩ := q
    exact ⟨Query.render_mk _ _ _, block.numbersRows_render⟩
  · have hrewriting : Dialect.oracle ∈ Dialect.rewriting := by decide
    have hscope : Dialect.oracle.bounds ⟨filter, ordering, limit, offset⟩ = true := by
      simpa [Dialect.bounds] using hbounds
    obtain ⟨change, hchange⟩ := hstatement.exists_change
    refine ⟨change.shownColumns .oracle, (change.frame .oracle t).1, (change.frame .oracle t).2, ?_,
      (RowScope.query ⟨filter, ordering, limit, offset⟩ (change.shownColumns .oracle)
        (t.render .oracle)).block.numbersRows_render⟩
    rw [hchange, Dialect.checkOffset_of_rewriting hrewriting, ← Query.render_block]
    exact Change.render_of_bounds hrewriting hscope change t

/-- A DELETE of three orders from the second on. -/
theorem bounds_number_rows_of_second_order :
    let orders : TableRef := ⟨"orders", none⟩
    (3 : UInt64) > 0 ∧
    IsChangeOf .oracle orders (fun scope => DeleteData.render .oracle ⟨some orders, scope⟩) ∧
    ∃ columns front back,
      let scope : RowScope := ⟨.empty, [], 3, 2⟩
      let block := (scope.query columns (orders.render .oracle)).block
      DeleteData.render .oracle ⟨some orders, scope⟩
        = (block.render .oracle).map (fun rows => front ++ rows ++ back) ∧
      ResultAlike (NumbersRows 3 2) (block.unpaged.render .oracle) (block.render .oracle) := by
  intro orders
  have hdelete : IsChangeOf .oracle orders
      (fun scope => DeleteData.render .oracle ⟨some orders, scope⟩) := .delete
  have hlimit : (3 : UInt64) > 0 := by decide
  exact ⟨hlimit, hdelete,
    (bounds_number_rows (Or.inl hlimit)).2 orders _ hdelete .empty []⟩

/-- **Rows from the fourth on, without a limit**: of six rows three are promised, and none is
kept. -/
theorem no_row_from_fourth_on :
    let rows : SelectBlock := { SelectBlock.empty with sources := ["\"t\""], offset := 4 }
    rows.unpaged.render .oracle = .ok "SELECT * FROM \"t\"" ∧
    rows.render .oracle
      = .ok ("SELECT * FROM (" ++ "SELECT * FROM \"t\"" ++ ") WHERE ROWNUM >= 4") ∧
    ∃ blocks, readBlocks "SELECT * FROM (" ") WHERE ROWNUM >= 4" = some blocks ∧
      rowsOfBlocks blocks [1, 2, 3, 4, 5, 6] = [] ∧
      rowsFromNumber 0 4 [1, 2, 3, 4, 5, 6] = [4, 5, 6] := by
  refine ⟨by decide, by decide, [⟨none, rowNumber, .atLeast 4⟩], by decide, by decide, by decide⟩

end SqlBuilder
