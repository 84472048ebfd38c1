import SqlBuilder.Proofs.RowNumberWindow

/-! # Row numbers up to the largest number

Two dialects write the numbers of the first and the last row of a bounded statement, one in a clause
at the end of a change and one in a window around a query.  The numbers are sums of 64-bit numbers,
and no sum wraps around.  In the clause each sum is exact or saturates (`saturated`), and the first
row is not behind the last one unless the offset reaches the last row that a clause can name
(`first_le_lastNamedRow_iff`).  In the window the last row is exact where the sum of the bounds fits
in 64 bits (`IsLastRow`). -/

namespace SqlBuilder

/-! ## Saturated sums -/

/-- The number as it is if it fits in 64 bits, and the largest 64-bit number otherwise. -/
def saturated (n : Nat) : Nat := if n < 2 ^ 64 then n else 2 ^ 64 - 1

/-- A saturated number is the smaller one of the number and the largest 64-bit number. -/
theorem saturated_eq_min (n : Nat) : saturated n = min n (2 ^ 64 - 1) := by
  rw [saturated]
  split <;> omega

/-- **A sum does not wrap around**: it is the exact sum, saturated. -/
theorem toNat_saturatingAdd_eq_saturated (a b : UInt64) :
    (saturatingAdd a b).toNat = saturated (a.toNat + b.toNat) := by
  rw [toNat_saturatingAdd, saturated_eq_min]

/-! ## The clause with the numbers of two rows -/

/-- **A statement with a clause at its end that names the first and the last row.** The clause is
set apart by a blank. -/
def NamesRows (first last : Nat) (plain bounded : String) : Prop :=
  ∃ clause, Dialect.firebird.readPaging .tail clause = some (.numbered first last) ∧
    (∃ k, clause = " " ++ k) ∧ bounded = plain ++ clause

/-- The number of the last row of so many rows behind an offset; without a limit it is that of the
last row that a clause can name. -/
def lastNamedRow (limit offset : UInt64) : Nat :=
  if limit = 0 then lastRow.toNat else saturated (offset.toNat + limit.toNat)

/-- **The first row is not behind the last one**, unless there is no limit and the offset reaches
the last row that a clause can name. -/
theorem first_le_lastNamedRow_iff (limit offset : UInt64) :
    saturated (offset.toNat + 1) ≤ lastNamedRow limit offset ↔ limit ≠ 0 ∨ offset < lastRow := by
  have hlast : lastRow.toNat = 2 ^ 63 - 1 := by decide
  rw [lastNamedRow, saturated_eq_min, UInt64.lt_iff_toNat_lt, hlast]
  by_cases hl : limit = 0
  · rw [if_pos hl]
    simp only [hl, ne_eq, not_true_eq_false, false_or]
    omega
  · have hone := one_le_toNat (UInt64.pos_iff_ne_zero.2 hl)
    rw [if_neg hl, saturated_eq_min]
    refine iff_of_true ?_ (Or.inl hl)
    omega

/-- **The clause of a bounded change names its rows.** -/
theorem namesRows_changePaging {offset : UInt64} (hoffset : offset > 0) (limit : UInt64)
    (plain : String) :
    NamesRows (saturated (offset.toNat + 1)) (lastNamedRow limit offset) plain
      (plain ++ (Dialect.firebird.changePaging limit offset).trailing) := by
  have hfirst : (saturatingAdd offset 1).toNat = saturated (offset.toNat + 1) :=
    toNat_saturatingAdd_eq_saturated offset 1
  obtain ⟨last, hclause, hlast⟩ : ∃ last : UInt64,
      Dialect.firebird.changePaging limit offset = .rowsBetween (saturatingAdd offset 1) last ∧
        last.toNat = lastNamedRow limit offset := by
    rw [Dialect.changePaging, rowsClause, if_neg (UInt64.pos_iff_ne_zero.1 hoffset), lastNamedRow]
    by_cases hl : limit = 0
    · exact ⟨lastRow, if_pos hl, (if_pos hl).symm⟩
    · refine ⟨saturatingAdd offset limit, if_neg hl, ?_⟩
      rw [if_neg hl, toNat_saturatingAdd_eq_saturated]
  have hread := PagingClause.readPaging_text (Dialect.firebird.isOf_changePaging limit offset)
  rw [Dialect.text_changePaging, hclause, PagingClause.meaning, hfirst, hlast] at hread
  rw [hclause]
  refine ⟨_, hread, ?_, rfl⟩
  refine ⟨"ROWS " ++ countText (saturatingAdd offset 1) ++ " TO " ++ countText last, ?_⟩
  have hrows : " ROWS " = " " ++ "ROWS " := by decide
  rw [PagingClause.trailing, hrows]
  simp only [String.append_assoc]

/-! ## The window of numbered rows -/

/-- **A query in two blocks that keep its rows between two numbers**: the inner block shows the
numbers under a name of its own and tests the last one, the outer block tests the first one. -/
def KeepsNumbers (first last : Nat) (plain bounded : String) : Prop :=
  ∃ front back name, name ≠ rowNumber ∧
    readBlocks front back
      = some [⟨some name, rowNumber, .atMost last⟩, ⟨none, name, .atLeast first⟩] ∧
    bounded = front ++ plain ++ back

/-- **The last row of the window of a limit and a first row**, as it is written. -/
structure IsLastRow (limit offset : UInt64) (last : Nat) : Prop where
  /-- It is exact if the sum of the bounds fits in 64 bits. -/
  exact_of_fits : offset.toNat + limit.toNat < 2 ^ 64 → last = offset.toNat + limit.toNat - 1
  /-- It has not wrapped around if the sum does not fit. -/
  large_of_not_fits : 2 ^ 64 ≤ offset.toNat + limit.toNat → 2 ^ 64 - 2 ≤ last ∧ last < 2 ^ 64
  /-- It is not in front of the first row, unless that has the largest number. -/
  first_le : offset.toNat < 2 ^ 64 - 1 → offset.toNat ≤ last

/-- The last row of a window is the sum of its bounds less one, which does not go below zero. -/
theorem isLastRow_saturatingAdd_sub_one {limit offset : UInt64} (hlimit : limit > 0)
    (hoffset : offset > 0) : IsLastRow limit offset (saturatingAdd offset limit - 1).toNat := by
  have hl := one_le_toNat hlimit
  rw [toNat_saturatingAdd_sub_one hoffset]
  exact ⟨fun hfits => by omega, fun hlarge => by omega, fun hfirst => by omega⟩

/-- **The window of its bounds stands around a query.** -/
theorem keepsNumbers_window {limit offset : UInt64} (hlimit : limit > 0) (hoffset : offset > 0)
    (sql : String) :
    KeepsNumbers offset.toNat (saturatingAdd offset limit - 1).toNat sql
      (Dialect.oracle.window limit offset sql) := by
  have hwindow : RowWindow.ofBounds limit offset
      = .between offset (saturatingAdd offset limit - 1) := by
    rw [RowWindow.ofBounds, if_neg (UInt64.pos_iff_ne_zero.1 hoffset),
      if_neg (UInt64.pos_iff_ne_zero.1 hlimit)]
  refine ⟨_, _, "\"rn\"", by decide, ?_, (RowWindow.ofBounds limit offset).wrap_eq sql⟩
  rw [RowWindow.readBlocks_front_back, hwindow]
  rfl

/-! ## The main result -/

/-- **Row numbers are right up to the largest number.** No sum of an offset and a count wraps
around, and one can be taken from it.  An UPDATE or DELETE with a clause for its rows names the rows
from `offset + 1` to `offset + limit`, or to the last row that can be named, where sums saturate.  A
window with a limit starts at row `offset`, and its last row is `offset + limit - 1` where the sum
of the bounds fits in 64 bits. -/
theorem row_numbers_exact_or_saturated {offset : UInt64} (hoffset : offset > 0) (limit : UInt64) :
    -- The sums.
    (∀ count : UInt64, (saturatingAdd offset count).toNat
      = saturated (offset.toNat + count.toNat) ∧ 1 ≤ saturatingAdd offset count) ∧
    -- UPDATE and DELETE with a clause.
    ((saturated (offset.toNat + 1) ≤ lastNamedRow limit offset ↔ limit ≠ 0 ∨ offset < lastRow) ∧
      ∀ (t : TableRef) (statement : RowScope → DbResult String),
        IsChangeOf .firebird t statement → ∀ (filter : Predicates) (ordering : List String),
        let scope : RowScope := ⟨filter, ordering, limit, offset⟩
        ResultAlike (NamesRows (saturated (offset.toNat + 1)) (lastNamedRow limit offset))
          (statement scope.unpaged) (statement scope)) ∧
    -- SELECT, UPDATE and DELETE with a window.
    (limit > 0 → ∃ last, IsLastRow limit offset last ∧
      (∀ q : Query, q.block.limit = limit → q.block.offset = offset →
        q.render .oracle
          = joined (q.block.render .oracle) (Query.renderParts .oracle q.combined) ∧
        ResultAlike (KeepsNumbers offset.toNat last) (q.block.unpaged.render .oracle)
          (q.block.render .oracle)) ∧
      ∀ (t : TableRef) (statement : RowScope → DbResult String),
        IsChangeOf .oracle t statement → ∀ (filter : Predicates) (ordering : List String),
        ∃ columns front back,
          let scope : RowScope := ⟨filter, ordering, limit, offset⟩
          let block := (scope.query columns (t.render .oracle)).block
          statement scope = (block.render .oracle).map (fun rows => front ++ rows ++ back) ∧
          ResultAlike (KeepsNumbers offset.toNat last) (block.unpaged.render .oracle)
            (block.render .oracle)) := by
  refine ⟨fun count => ⟨toNat_saturatingAdd_eq_saturated offset count,
    one_le_saturatingAdd hoffset count⟩, ⟨first_le_lastNamedRow_iff limit offset, ?_⟩, ?_⟩
  · intro t statement hstatement filter ordering scope
    exact hstatement.alike_trailing rfl (Or.inl rfl) (namesRows_changePaging hoffset limit)
  · intro hlimit
    have hwindow := keepsNumbers_window hlimit hoffset
    refine ⟨_, isLastRow_saturatingAdd_sub_one hlimit hoffset, fun q hl ho => ?_, ?_⟩
    · subst hl ho
      obtain ⟨block, combined⟩ := q
      exact ⟨Query.render_mk _ _ _, block.alike_window hwindow⟩
    · intro t statement hstatement filter ordering
      have hbounds : Dialect.oracle.bounds ⟨filter, ordering, limit, offset⟩ = true := by
        simp [Dialect.bounds, hlimit]
      obtain ⟨columns, front, back, htext⟩ := hstatement.exists_framed (by decide) hbounds
      refine ⟨columns, front, back, ?_, SelectBlock.alike_window _ hwindow⟩
      rw [← Query.render_block]
      exact htext

/-- Bounds whose sum is the largest number: the orders behind the fifth are deleted with a clause,
and those from the fifth on through a window. -/
theorem row_numbers_of_largest_sum :
    let orders : TableRef := ⟨"orders", none⟩
    let scope : RowScope := ⟨.empty, [], 18446744073709551610, 5⟩
    let block : SelectBlock :=
      { SelectBlock.empty with
        sources := ["\"orders\""], limit := 18446744073709551610, offset := 5 }
    (5 : UInt64) > 0 ∧ (18446744073709551610 : UInt64) > 0 ∧
    IsChangeOf .firebird orders (fun scope => DeleteData.render .firebird ⟨some orders, scope⟩) ∧
    IsChangeOf .oracle orders (fun scope => DeleteData.render .oracle ⟨some orders, scope⟩) ∧
    ResultAlike (NamesRows 6 18446744073709551615) (.ok "DELETE FROM \"orders\"")
      (.ok "DELETE FROM \"orders\" ROWS 6 TO 18446744073709551615") ∧
    ResultAlike (KeepsNumbers 5 18446744073709551614) (.ok "SELECT * FROM \"orders\"")
      (block.render .oracle) ∧
    ∃ columns front back,
      let rows := (scope.query columns (orders.render .oracle)).block
      DeleteData.render .oracle ⟨some orders, scope⟩
        = (rows.render .oracle).map (fun rows => front ++ rows ++ back) ∧
      ResultAlike (KeepsNumbers 5 18446744073709551614) (rows.unpaged.render .oracle)
        (rows.render .oracle) := by
  intro orders scope block
  have hoffset : (5 : UInt64) > 0 := by decide
  have hlimit : (18446744073709551610 : UInt64) > 0 := by decide
  have hnamed : IsChangeOf .firebird orders
      (fun scope => DeleteData.render .firebird ⟨some orders, scope⟩) := .delete
  have hnumbered : IsChangeOf .oracle orders
      (fun scope => DeleteData.render .oracle ⟨some orders, scope⟩) := .delete
  have hplain : DeleteData.render .firebird ⟨some orders, scope.unpaged⟩
      = .ok "DELETE FROM \"orders\"" := by decide
  have hbounded : DeleteData.render .firebird ⟨some orders, scope⟩
      = .ok "DELETE FROM \"orders\" ROWS 6 TO 18446744073709551615" := by decide
  have hselect : block.unpaged.render .oracle = .ok "SELECT * FROM \"orders\"" := by decide
  have hresult := row_numbers_exact_or_saturated hoffset 18446744073709551610
  obtain ⟨last, hlast, hquery, hchange⟩ := hresult.2.2 hlimit
  obtain rfl : last = 18446744073709551614 := hlast.exact_of_fits (by decide)
  refine ⟨hoffset, hlimit, hnamed, hnumbered, ?_, ?_, hchange orders _ hnumbered .empty []⟩
  · rw [← hplain, ← hbounded]
    exact hresult.2.1.2 orders _ hnamed .empty []
  · rw [← hselect]
    exact (hquery ⟨block, []⟩ rfl rfl).2

/-- **Row numbers cross at the largest bounds.** One row from the largest number on has its last row
one number too low, in front of its first row; and behind the last row that a clause can name there
is no row that it could name first. -/
theorem row_numbers_cross :
    let orders : TableRef := ⟨"orders", none⟩
    -- One row from the largest number on, which is the exact last row as well.
    DeleteData.render .oracle ⟨some orders, ⟨.empty, [], 1, 18446744073709551615⟩⟩
      = .ok ("DELETE FROM (" ++ ("SELECT * FROM (SELECT \"t0\".*, ROWNUM AS \"rn\" FROM ("
        ++ "SELECT * FROM \"orders\"" ++ ") \"t0\" WHERE ROWNUM <= 18446744073709551614) "
        ++ "WHERE \"rn\" >= 18446744073709551615") ++ ")") ∧
    readBlocks "SELECT * FROM (SELECT \"t0\".*, ROWNUM AS \"rn\" FROM ("
        (") \"t0\" WHERE ROWNUM <= 18446744073709551614) "
          ++ "WHERE \"rn\" >= 18446744073709551615")
      = some [⟨some "\"rn\"", rowNumber, .atMost 18446744073709551614⟩,
        ⟨none, "\"rn\"", .atLeast 18446744073709551615⟩] ∧
    18446744073709551614 ≠ saturated (18446744073709551615 + 1 - 1) ∧
    ¬ 18446744073709551615 ≤ 18446744073709551614 ∧
    -- All rows behind the last one that can be named.
    DeleteData.render .firebird ⟨some orders, ⟨.empty, [], 0, lastRow⟩⟩
      = .ok ("DELETE FROM \"orders\"" ++ " ROWS 9223372036854775808 TO 9223372036854775807") ∧
    Dialect.firebird.readPaging .tail " ROWS 9223372036854775808 TO 9223372036854775807"
      = some (.numbered 9223372036854775808 9223372036854775807) ∧
    9223372036854775808 = saturated (lastRow.toNat + 1) ∧
    ¬ 9223372036854775808 ≤ 9223372036854775807 := by
  have hback : (RowWindow.between 18446744073709551615 18446744073709551614).back
      = ") \"t0\" WHERE ROWNUM <= 18446744073709551614) "
        ++ "WHERE \"rn\" >= 18446744073709551615" := by decide
  refine ⟨by decide +kernel, ?_, by decide, by decide, by decide, by decide, by decide, by decide⟩
  rw [← hback]
  exact RowWindow.readBlocks_front_back (.between 18446744073709551615 18446744073709551614)

end SqlBuilder
