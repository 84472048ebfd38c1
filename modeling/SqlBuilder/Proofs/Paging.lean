import SqlBuilder.Proofs.PagingWindow
import SqlBuilder.Proofs.ResultAlike

/-! # Paging means the same rows in every dialect

A bounded statement is the statement without bounds with one paging clause added, at its end or
behind its first words (`AddsPaging`), and the clause keeps the rows that the bounds mean, in every
dialect but the one that numbers rows (`paging_keeps_same_rows`). -/

namespace SqlBuilder

/-! ## Where the clause stands -/

/-- The clauses of a SELECT without bounds. -/
def SelectBlock.unpaged (b : SelectBlock) : SelectBlock := { b with limit := 0, offset := 0 }

/-- A scope without bounds. -/
def RowScope.unpaged (scope : RowScope) : RowScope := { scope with limit := 0, offset := 0 }

/-- The first words of a SELECT, if its paging clause stands behind them and not at the end. -/
def Dialect.pagingHead (d : Dialect) (b : SelectBlock) : Option String :=
  match d with
  | .firebird => some "SELECT "
  | .msSql =>
    if b.offset = 0 then some (if b.distinct then "SELECT DISTINCT " else "SELECT ") else none
  | _ => none

/-- The order that stands in front of the paging clause of a SELECT without an order, where the
clause needs one. -/
def Dialect.orderFiller (d : Dialect) (b : SelectBlock) : String :=
  match d with
  | .msSql => if b.ordering.isEmpty && decide (b.offset > 0) then " ORDER BY (SELECT NULL)" else ""
  | _ => ""

/-- **A statement with a paging clause of a dialect added** that keeps the window of given bounds:
behind the statement's first words if these are given, at the end, behind a filler, otherwise.  The
clause is set apart by a blank. -/
def AddsPaging (d : Dialect) (head : Option String) (filler : String) (limit offset : UInt64)
    (plain paged : String) : Prop :=
  ∃ clause m, (∀ {α : Type} (rows : List α), rows.length < 2 ^ 63 →
      m.rows rows = keptRows limit offset rows) ∧
    match head with
    | none => d.readPaging .tail clause = some m ∧ (clause = "" ∨ ∃ k, clause = " " ++ k) ∧
      paged = plain ++ filler ++ clause
    | some head => d.readPaging .head clause = some m ∧ (clause = "" ∨ ∃ k, clause = k ++ " ") ∧
      ∃ rest, plain = head ++ rest ∧ paged = head ++ clause ++ rest

/-! ## SELECT -/

/-- The text of the clauses around the WHERE and HAVING clauses, with a paging clause. -/
def SelectBlock.pagedText (b : SelectBlock) (d : Dialect) (paging : PagingClause)
    (filter having : String) : String :=
  b.headText d paging ++ filter ++ b.groupClause ++ having ++ orderClause b.ordering paging
    ++ paging.trailing

namespace SelectBlock

variable {b : SelectBlock} {d : Dialect} {paging : PagingClause} (filter having : String)

/-- The text with a paging clause, in pieces between which the paging clause stands. -/
theorem pagedText_eq :
    b.pagedText d paging filter having
      = "SELECT " ++ paging.beforeDistinct ++ (if b.distinct then "DISTINCT " else "")
        ++ paging.afterDistinct ++ (b.columnText ++ b.fromClause d ++ b.joinClause ++ filter
        ++ b.groupClause ++ having ++ orderClause b.ordering paging ++ paging.trailing) := by
  rw [pagedText, headText]
  simp only [String.append_assoc]

/-- The text without bounds. -/
theorem pagedText_unpaged :
    b.pagedText d .unpaged filter having
      = "SELECT " ++ (if b.distinct then "DISTINCT " else "") ++ (b.columnText ++ b.fromClause d
        ++ b.joinClause ++ filter ++ b.groupClause ++ having
        ++ orderClause b.ordering .unpaged) := by
  rw [pagedText_eq]
  show "SELECT " ++ "" ++ _ ++ "" ++ (_ ++ "") = _
  rw [String.append_empty, String.append_empty, String.append_empty]

/-- A paging clause at the end. -/
theorem pagedText_end (hbefore : paging.beforeDistinct = "") (hafter : paging.afterDistinct = "") :
    b.pagedText d paging filter having
      = "SELECT " ++ (if b.distinct then "DISTINCT " else "") ++ (b.columnText ++ b.fromClause d
        ++ b.joinClause ++ filter ++ b.groupClause ++ having ++ orderClause b.ordering paging)
        ++ paging.trailing := by
  rw [pagedText_eq, hbefore, hafter, String.append_empty, String.append_empty,
    ← String.append_assoc]

/-- The clause for no bounds is no clause. -/
theorem pagedText_selectPaging_zero (b : SelectBlock) (d : Dialect) :
    b.pagedText d (d.selectPaging 0 0) filter having = b.pagedText d .unpaged filter having := by
  cases d <;> rfl

variable {limit offset : UInt64}
  (hmeaning : ∀ {α : Type} (rows : List α), rows.length < 2 ^ 63 →
    paging.meaning.rows rows = keptRows limit offset rows)
include hmeaning

/-- A clause at the end is added to the text without bounds. -/
theorem addsPaging_end {filler : String} (hidiom : paging.IsOf d .tail)
    (hbefore : paging.beforeDistinct = "") (hafter : paging.afterDistinct = "")
    (horder : orderClause b.ordering paging = orderClause b.ordering .unpaged ++ filler) :
    AddsPaging d none filler limit offset (b.pagedText d .unpaged filter having)
      (b.pagedText d paging filter having) := by
  have htext : paging.text = paging.trailing := by
    rw [PagingClause.text, hbefore, hafter, String.empty_append, String.empty_append]
  refine ⟨paging.trailing, paging.meaning, hmeaning, htext ▸ PagingClause.readPaging_text hidiom,
    paging.trailing_cases, ?_⟩
  rw [pagedText_end filter having hbefore hafter, horder, pagedText_unpaged]
  simp only [String.append_assoc]

/-- A clause in front of DISTINCT is added to the text without bounds. -/
theorem addsPaging_first (hidiom : paging.IsOf d .head) (hafter : paging.afterDistinct = "")
    (htrailing : paging.trailing = "")
    (horder : orderClause b.ordering paging = orderClause b.ordering .unpaged) :
    AddsPaging d (some "SELECT ") "" limit offset (b.pagedText d .unpaged filter having)
      (b.pagedText d paging filter having) := by
  have htext : paging.text = paging.beforeDistinct := by
    rw [PagingClause.text, hafter, htrailing, String.append_empty, String.append_empty]
  have hcases := paging.head_cases
  rw [hafter, String.append_empty] at hcases
  refine ⟨paging.beforeDistinct, paging.meaning, hmeaning,
    htext ▸ PagingClause.readPaging_text hidiom, hcases, _,
    (pagedText_unpaged filter having).trans String.append_assoc, ?_⟩
  rw [pagedText_eq, hafter, htrailing, horder, String.append_empty, String.append_empty,
    String.append_assoc]

/-- A clause behind DISTINCT is added to the text without bounds. -/
theorem addsPaging_top (hidiom : paging.IsOf d .head) (hbefore : paging.beforeDistinct = "")
    (htrailing : paging.trailing = "")
    (horder : orderClause b.ordering paging = orderClause b.ordering .unpaged) :
    AddsPaging d (some (if b.distinct then "SELECT DISTINCT " else "SELECT ")) "" limit offset
      (b.pagedText d .unpaged filter having) (b.pagedText d paging filter having) := by
  have htext : paging.text = paging.afterDistinct := by
    rw [PagingClause.text, hbefore, htrailing, String.append_empty, String.empty_append]
  have hcases := paging.head_cases
  rw [hbefore, String.empty_append] at hcases
  have hhead : (if b.distinct then "SELECT DISTINCT " else "SELECT ")
      = "SELECT " ++ (if b.distinct then "DISTINCT " else "") := by
    cases b.distinct <;> rfl
  refine ⟨paging.afterDistinct, paging.meaning, hmeaning,
    htext ▸ PagingClause.readPaging_text hidiom, hcases, _,
    hhead ▸ pagedText_unpaged filter having, ?_⟩
  rw [pagedText_eq, hbefore, htrailing, horder, String.append_empty, String.append_empty, hhead]

omit hmeaning

/-- **A SELECT with bounds is the SELECT without bounds with a paging clause added.** -/
theorem addsPaging_selectPaging (b : SelectBlock) (hd : d ≠ .oracle) :
    AddsPaging d (d.pagingHead b) (d.orderFiller b) b.limit b.offset
      (b.pagedText d .unpaged filter having)
      (b.pagedText d (d.selectPaging b.limit b.offset) filter having) := by
  have hmeaning : ∀ {α : Type} (rows : List α), rows.length < 2 ^ 63 →
      (d.selectPaging b.limit b.offset).meaning.rows rows = keptRows b.limit b.offset rows :=
    fun rows => Dialect.rows_selectPaging hd b.limit b.offset
  cases d
  case oracle => exact absurd rfl hd
  case firebird => exact addsPaging_first filter having hmeaning trivial rfl rfl rfl
  case msSql =>
    -- Without an offset the clause is TOP behind DISTINCT, with one it stands at the end.
    by_cases ho : b.offset = 0
    · have hhead : Dialect.msSql.pagingHead b
          = some (if b.distinct then "SELECT DISTINCT " else "SELECT ") := if_pos ho
      have hfiller : Dialect.msSql.orderFiller b = "" := by simp [Dialect.orderFiller, ho]
      have hpaging : Dialect.msSql.selectPaging b.limit b.offset = .unpaged ∨
          ∃ n, Dialect.msSql.selectPaging b.limit b.offset = .top n := by
        rw [Dialect.selectPaging, if_pos ho]
        cases nonzero b.limit with
        | none => exact Or.inl rfl
        | some n => exact Or.inr ⟨n, rfl⟩
      rw [hhead, hfiller]
      rcases hpaging with hnone | ⟨n, htop⟩
      · rw [hnone] at hmeaning ⊢
        exact addsPaging_top filter having hmeaning trivial rfl rfl rfl
      · rw [htop] at hmeaning ⊢
        exact addsPaging_top filter having hmeaning trivial rfl rfl rfl
    · have hhead : Dialect.msSql.pagingHead b = none := if_neg ho
      have hpaging : Dialect.msSql.selectPaging b.limit b.offset
          = .fetchNext b.offset (nonzero b.limit) := if_neg ho
      have hpos : b.offset > 0 := UInt64.pos_iff_ne_zero.2 ho
      rw [hhead]
      rw [hpaging] at hmeaning ⊢
      -- An order of its own makes the filler unnecessary.
      refine addsPaging_end filter having hmeaning trivial rfl rfl ?_
      rw [orderClause, orderClause, Dialect.orderFiller]
      cases b.ordering.isEmpty with
      | true => simp [hpos, PagingClause.orderFiller]
      | false => simp
  all_goals
    exact addsPaging_end filter having hmeaning
      (Dialect.isOf_selectPaging (by decide) (by decide) b.limit b.offset) rfl rfl
      String.append_empty.symm

end SelectBlock

/-- The text of a SELECT, in the dialects without numbered rows. -/
theorem SelectBlock.render_eq_pagedText {d : Dialect} (hd : d ≠ .oracle) (b : SelectBlock) :
    b.render d = do
      let filter ← b.filter.whereClause
      let having ← b.having.havingClause
      return b.pagedText d (d.selectPaging b.limit b.offset) filter having := by
  have hwindow : ∀ sql, d.window b.limit b.offset sql = sql := by
    intro sql
    cases d
    case oracle => exact absurd rfl hd
    all_goals rfl
  rw [SelectBlock.render]
  simp only [hwindow]
  rfl

/-- **A SELECT keeps the rows that its bounds mean.** It fails exactly as it does without bounds,
and is otherwise the SELECT without bounds with a paging clause added. -/
theorem SelectBlock.addsPaging_render {d : Dialect} (hd : d ≠ .oracle) (b : SelectBlock) :
    ResultAlike (AddsPaging d (d.pagingHead b) (d.orderFiller b) b.limit b.offset)
      (b.unpaged.render d) (b.render d) := by
  rw [render_eq_pagedText hd, render_eq_pagedText hd]
  -- Both SELECTs have the same WHERE and HAVING lists, so the same faults or the same clauses.
  refine (ResultAlike.refl (R := Eq) (fun _ => rfl) b.filter.whereClause).bind ?_
  rintro filter _ rfl
  refine (ResultAlike.refl (R := Eq) (fun _ => rfl) b.having.havingClause).bind ?_
  rintro having _ rfl
  refine .ok ?_
  show AddsPaging _ _ _ _ _ (b.pagedText d (d.selectPaging 0 0) filter having) _
  rw [pagedText_selectPaging_zero]
  exact addsPaging_selectPaging filter having b hd

/-! ## UPDATE and DELETE -/

/-- **The statements that change rows of a table**: its DELETE, and the UPDATEs of it that assign
something, as functions of the scope. -/
inductive IsChangeOf (d : Dialect) (t : TableRef) : (RowScope → DbResult String) → Prop
  | delete : IsChangeOf d t fun scope => DeleteData.render d ⟨some t, scope⟩
  | update (assignments : Entries String String) (h : assignments ≠ []) :
    IsChangeOf d t fun scope => UpdateData.render d ⟨some t, assignments, scope⟩

/-- Such a statement is a change, behind the check of the offset. -/
theorem IsChangeOf.exists_change {d : Dialect} {t : TableRef}
    {statement : RowScope → DbResult String} (h : IsChangeOf d t statement) :
    ∃ change : Change, ∀ scope,
      statement scope = (d.checkOffset scope).bind fun _ => change.render d t scope := by
  cases h with
  | delete => exact ⟨.delete, fun scope => rfl⟩
  | update assignments hne =>
    refine ⟨.update (UpdateData.setText ⟨some t, assignments, .all⟩ d), fun scope => ?_⟩
    have htarget : UpdateData.checkedTarget ⟨some t, assignments, scope⟩ = .ok t := by
      simp [UpdateData.checkedTarget, hne]
    show UpdateData.render d ⟨some t, assignments, scope⟩ = _
    rw [UpdateData.render, htarget]
    rfl

/-- Where a dialect can skip rows or none are to be skipped, the check of the offset passes. -/
theorem Dialect.checkOffset_of_skip {d : Dialect} {scope : RowScope}
    (hskip : d.skipsRows = true ∨ scope.offset = 0) : d.checkOffset scope = .ok () := by
  rw [Dialect.checkOffset]
  rcases hskip with h | h <;> simp [h]

/-- The paging clause of a change stands at its end and needs no order. -/
theorem Dialect.changePaging_end (d : Dialect) (limit offset : UInt64) :
    (d.changePaging limit offset).beforeDistinct = "" ∧
      (d.changePaging limit offset).afterDistinct = "" ∧
      (d.changePaging limit offset).orderFiller = "" := by
  cases d
  case firebird =>
    rw [Dialect.changePaging]
    rcases rowsClause_cases limit offset with h | ⟨n, h⟩ | ⟨a, b, h⟩ <;> rw [h] <;>
      exact ⟨rfl, rfl, rfl⟩
  all_goals exact ⟨rfl, rfl, rfl⟩

/-- The text of a change that is bounded at its end. -/
theorem Change.render_of_trailing {d : Dialect} (hd : d.bounding = .trailing) (change : Change)
    (t : TableRef) (scope : RowScope) :
    change.render d t scope = change.withTrailing d t scope := by
  cases d <;> first | rfl | cases hd

/-- The text of the paging clause of a change is its part at the end. -/
theorem Dialect.text_changePaging (d : Dialect) (limit offset : UInt64) :
    (d.changePaging limit offset).text = (d.changePaging limit offset).trailing := by
  obtain ⟨hbefore, hafter, -⟩ := d.changePaging_end limit offset
  rw [PagingClause.text, hbefore, hafter, String.empty_append, String.empty_append]

/-- **A change with its bounds at the end is the change without bounds and a paging clause.** -/
theorem Change.alike_withTrailing (change : Change) (d : Dialect) (t : TableRef) (scope : RowScope)
    {R : String → String → Prop}
    (hclause : ∀ plain, R plain (plain ++ (d.changePaging scope.limit scope.offset).trailing)) :
    ResultAlike R (change.withTrailing d t scope.unpaged) (change.withTrailing d t scope) := by
  refine (ResultAlike.refl (R := Eq) (fun _ => rfl) scope.filter.whereClause).bind ?_
  rintro filter _ rfl
  have hzero : (d.changePaging 0 0).trailing = "" := by cases d <;> rfl
  have horder : orderClause scope.ordering (d.changePaging scope.limit scope.offset)
      = orderClause scope.ordering (d.changePaging 0 0) := by
    rw [orderClause, orderClause, (d.changePaging_end scope.limit scope.offset).2.2,
      (d.changePaging_end 0 0).2.2]
  refine .ok ?_
  show R (change.over (t.render d) ++ filter ++ orderClause scope.ordering (d.changePaging 0 0)
    ++ (d.changePaging 0 0).trailing) _
  rw [horder, hzero, String.append_empty]
  exact hclause _

/-- **A change with its bounds at the end keeps the rows that the bounds mean.** -/
theorem Change.addsPaging_withTrailing {d : Dialect} (hd : d.bounding = .trailing) (change : Change)
    (t : TableRef) {scope : RowScope} (hskip : d.skipsRows = true ∨ scope.offset = 0) :
    ResultAlike (AddsPaging d none "" scope.limit scope.offset)
      (change.withTrailing d t scope.unpaged) (change.withTrailing d t scope) := by
  refine change.alike_withTrailing d t scope fun plain => ?_
  refine ⟨_, _, fun rows => Dialect.rows_changePaging hd hskip,
    d.text_changePaging _ _ ▸ PagingClause.readPaging_text (d.isOf_changePaging _ _),
    PagingClause.trailing_cases _, ?_⟩
  rw [String.append_empty]

/-- **A statement with its bounds at the end is the statement without bounds and a paging
clause.** -/
theorem IsChangeOf.alike_trailing {d : Dialect} (hd : d.bounding = .trailing) {t : TableRef}
    {statement : RowScope → DbResult String} (h : IsChangeOf d t statement) {scope : RowScope}
    (hskip : d.skipsRows = true ∨ scope.offset = 0) {R : String → String → Prop}
    (hclause : ∀ plain, R plain (plain ++ (d.changePaging scope.limit scope.offset).trailing)) :
    ResultAlike R (statement scope.unpaged) (statement scope) := by
  obtain ⟨change, hchange⟩ := h.exists_change
  rw [hchange, hchange, Dialect.checkOffset_of_skip (Or.inr rfl), Dialect.checkOffset_of_skip hskip]
  show ResultAlike R (change.render d t scope.unpaged) (change.render d t scope)
  rw [Change.render_of_trailing hd, Change.render_of_trailing hd]
  exact change.alike_withTrailing d t scope hclause

/-- **A bounded statement is the SELECT of its rows in a fixed frame**, in the dialects that put a
query into it. -/
theorem IsChangeOf.exists_framed {d : Dialect} (hd : d ∈ Dialect.rewriting) {t : TableRef}
    {statement : RowScope → DbResult String} (h : IsChangeOf d t statement) {scope : RowScope}
    (hscope : d.bounds scope = true) :
    ∃ columns front back, statement scope
      = (Query.render d (scope.query columns (t.render d))).map fun rows =>
        front ++ rows ++ back := by
  obtain ⟨change, hchange⟩ := h.exists_change
  refine ⟨change.shownColumns d, (change.frame d t).1, (change.frame d t).2, ?_⟩
  rw [hchange, Dialect.checkOffset_of_rewriting hd]
  exact Change.render_of_bounds hd hscope change t

/-- A statement without bounds has nothing added. -/
theorem addsPaging_refl (d : Dialect) (sql : String) : AddsPaging d none "" 0 0 sql sql := by
  refine ⟨"", .window 0 none, fun rows _ => (keptRows_zero 0 rows).symm, rfl, Or.inl rfl, ?_⟩
  rw [String.append_empty, String.append_empty]

/-! ## The main result -/

/-- **Paging means the same rows in every dialect but the one that numbers rows.** A SELECT is the
SELECT without bounds with one clause added that keeps the rows numbered from `offset + 1` to
`offset + limit`.  So is an UPDATE or DELETE in the dialects that bound it at its end, where two of
them refuse to skip rows, and in the others the query is that a bounded change acts on. -/
theorem paging_keeps_same_rows {d : Dialect} (hd : d ≠ .oracle) :
    -- SELECT.
    (∀ b : SelectBlock,
      ResultAlike (AddsPaging d (d.pagingHead b) (d.orderFiller b) b.limit b.offset)
        (Query.render d ⟨b.unpaged, []⟩) (Query.render d ⟨b, []⟩)) ∧
    ∀ (t : TableRef) (statement : RowScope → DbResult String), IsChangeOf d t statement →
      ∀ scope : RowScope,
      -- Rows cannot be skipped in two dialects.
      (d ∈ [Dialect.mySql, .mariaDb] → scope.offset > 0 →
        statement scope = .error (.unsupported d .offsetInChange)) ∧
      -- Bounds at the end, or none.
      (d ∉ Dialect.rewriting ∧ (d ∈ [Dialect.mySql, .mariaDb] → scope.offset = 0) ∨
          scope.limit = 0 ∧ scope.offset = 0 →
        ResultAlike (AddsPaging d none "" scope.limit scope.offset) (statement scope.unpaged)
          (statement scope)) ∧
      -- Bounds in a query of their own.
      (d ∈ Dialect.rewriting → d.bounds scope = true → ∃ columns front back,
        let query := scope.query columns (t.render d)
        statement scope = (Query.render d query).map (fun rows => front ++ rows ++ back) ∧
        ResultAlike
          (AddsPaging d (d.pagingHead query.block) (d.orderFiller query.block) scope.limit
            scope.offset)
          (Query.render d (scope.unpaged.query columns (t.render d))) (Query.render d query)) := by
  have hselect : ∀ b : SelectBlock,
      ResultAlike (AddsPaging d (d.pagingHead b) (d.orderFiller b) b.limit b.offset)
        (Query.render d ⟨b.unpaged, []⟩) (Query.render d ⟨b, []⟩) := by
    intro b
    rw [Query.render_block, Query.render_block]
    exact b.addsPaging_render hd
  refine ⟨hselect, fun t statement hstatement scope => ?_⟩
  obtain ⟨change, hchange⟩ := hstatement.exists_change
  refine ⟨fun hdialect hoffset => ?_, fun hbounds => ?_, fun hrewriting hbounds => ?_⟩
  · have hskips : d.skipsRows = false := by
      revert hdialect
      cases d <;> decide
    rw [hchange, Dialect.checkOffset, hskips]
    simp [hoffset, Except.bind]
  · rcases hbounds with ⟨hplain, hzero⟩ | ⟨hlimit, hoffset⟩
    · -- The dialect bounds the statement at its end.
      have htrailing : d.bounding = .trailing := by
        revert hd hplain
        cases d <;> decide
      have hskip : d.skipsRows = true ∨ scope.offset = 0 := by
        revert hzero
        cases d <;> simp [Dialect.skipsRows]
      rw [hchange, hchange, Dialect.checkOffset_of_skip (Or.inr rfl),
        Dialect.checkOffset_of_skip hskip]
      show ResultAlike _ (change.render d t scope.unpaged) (change.render d t scope)
      rw [Change.render_of_trailing htrailing, Change.render_of_trailing htrailing]
      exact change.addsPaging_withTrailing htrailing t hskip
    · -- Without bounds the statement is itself, whatever the dialect.
      have hsame : scope.unpaged = scope := by
        cases scope
        simp_all [RowScope.unpaged]
      rw [hsame, hlimit, hoffset]
      exact .refl (addsPaging_refl d) _
  · -- The query is a SELECT, of which the first part speaks.
    refine ⟨change.shownColumns d, (change.frame d t).1, (change.frame d t).2, ?_, hselect _⟩
    rw [hchange, Dialect.checkOffset_of_rewriting hrewriting]
    exact Change.render_of_bounds hrewriting hbounds change t

/-- Firebird numbers the rows of a DELETE from one, SQL Server puts its query in front of one, and
MySQL refuses to skip rows in one. -/
theorem same_rows_of_skipped_row :
    let users : TableRef := ⟨"users", none⟩
    let block : SelectBlock :=
      { SelectBlock.empty with sources := ["users"], limit := 2, offset := 1 }
    let scope : RowScope := ⟨.empty, [], 2, 1⟩
    Dialect.firebird ≠ .oracle ∧ Dialect.msSql ≠ .oracle ∧ Dialect.mySql ≠ .oracle ∧
    ResultAlike (AddsPaging .firebird (some "SELECT ") "" 2 1)
      (Query.render .firebird ⟨block.unpaged, []⟩) (.ok "SELECT FIRST 2 SKIP 1 * FROM users") ∧
    ResultAlike (AddsPaging .firebird none "" 2 1) (.ok "DELETE FROM \"users\"")
      (.ok "DELETE FROM \"users\" ROWS 2 TO 3") ∧
    DeleteData.render .mySql ⟨some users, scope⟩ = .error (.unsupported .mySql .offsetInChange) ∧
    ∃ columns front back,
      DeleteData.render .msSql ⟨some users, scope⟩
        = (Query.render .msSql (scope.query columns "[users]")).map
          (fun rows => front ++ rows ++ back) ∧
      ResultAlike (AddsPaging .msSql none " ORDER BY (SELECT NULL)" 2 1)
        (Query.render .msSql (scope.unpaged.query columns "[users]"))
        (Query.render .msSql (scope.query columns "[users]")) := by
  intro users block scope
  have hpaged : Query.render .firebird ⟨block, []⟩ = .ok "SELECT FIRST 2 SKIP 1 * FROM users" := by
    decide
  have hdelete : DeleteData.render .firebird ⟨some users, scope.unpaged⟩
      = .ok "DELETE FROM \"users\"" := by decide
  have hbounded : DeleteData.render .firebird ⟨some users, scope⟩
      = .ok "DELETE FROM \"users\" ROWS 2 TO 3" := by decide
  have htable : users.render .msSql = "[users]" := by decide
  have hfirebird : Dialect.firebird ≠ .oracle := by decide
  have hmsSql : Dialect.msSql ≠ .oracle := by decide
  have hmySql : Dialect.mySql ≠ .oracle := by decide
  refine ⟨hfirebird, hmsSql, hmySql, ?_, ?_, ?_, ?_⟩
  · rw [← hpaged]
    exact (paging_keeps_same_rows hfirebird).1 block
  · rw [← hdelete, ← hbounded]
    exact ((paging_keeps_same_rows hfirebird).2 users _ .delete scope).2.1
      (Or.inl ⟨by decide, by decide⟩)
  · exact ((paging_keeps_same_rows hmySql).2 users _ .delete scope).1 (by decide) (by decide)
  · obtain ⟨columns, front, back, htext, hrows⟩ :=
      ((paging_keeps_same_rows hmsSql).2 users _ .delete scope).2.2 (by decide) (by decide)
    rw [htable] at htext hrows
    exact ⟨columns, front, back, htext, hrows⟩

end SqlBuilder
