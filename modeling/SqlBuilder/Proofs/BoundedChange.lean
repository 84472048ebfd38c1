import SqlBuilder.Delete
import SqlBuilder.Select
import SqlBuilder.Update

/-! # Bounded changes choose rows as SELECT does

Five dialects have no bounds on a change and put a query for the rows into it.  The query is the
dialect's own SELECT with the WHERE list, the order and the bounds of the scope
(`RowScope.selection_eq_render`), also where the change writes its paging by itself
(`RowScope.namedSelection_eq_selection`), and the text around it is fixed (`Change.frame`). -/

namespace SqlBuilder

/-! ## The query for the rows -/

/-- **The SELECT of the rows of a scope** that shows columns of a source. -/
def RowScope.query (scope : RowScope) (columns : List String) (source : String) : Query :=
  ⟨{ SelectBlock.empty with
      columns := columns
      sources := [source]
      filter := scope.filter
      ordering := scope.ordering
      limit := scope.limit
      offset := scope.offset }, []⟩

/-- A query without combined queries has the text of its clauses. -/
theorem Query.render_block (d : Dialect) (b : SelectBlock) :
    Query.render d ⟨b, []⟩ = b.render d := by
  have hrender : Query.render d ⟨b, []⟩ = (b.render d).map (· ++ "") := rfl
  rw [hrender]
  cases b.render d with
  | error e => rfl
  | ok sql => exact congrArg Except.ok String.append_empty

/-- The head of the SELECT of the rows of a scope. -/
theorem RowScope.headText_query (scope : RowScope) (d : Dialect) (columns : List String)
    (source : String) (paging : PagingClause) :
    (scope.query columns source).block.headText d paging
      = "SELECT " ++ paging.beforeDistinct ++ paging.afterDistinct
        ++ (scope.query columns source).block.columnText ++ " FROM " ++ source := by
  have hdistinct : (if (scope.query columns source).block.distinct then "DISTINCT " else "") = "" :=
    rfl
  have hjoins : (scope.query columns source).block.joinClause = "" := rfl
  have hfrom : (scope.query columns source).block.fromClause d = " FROM " ++ source :=
    congrArg (" FROM " ++ ·) String.intercalate_singleton
  rw [SelectBlock.headText, hdistinct, hjoins, hfrom, String.append_empty, String.append_empty,
    ← String.append_assoc]

/-- **The query inside a bounded change is the dialect's SELECT** of the rows of the scope. -/
theorem RowScope.selection_eq_render (scope : RowScope) (d : Dialect) (columns : List String)
    (t : TableRef) :
    scope.selection d (if columns.isEmpty then "*" else ", ".intercalate columns) t
      = Query.render d (scope.query columns (t.render d)) := by
  rw [RowScope.query, Query.render_block, RowScope.selection, SelectBlock.render]
  -- A fault of the WHERE list is the only one that either query has.
  cases hfilter : scope.filter.whereClause with
  | error e => rfl
  | ok filter =>
    show Except.ok (d.window scope.limit scope.offset _) =
      Except.ok (d.window scope.limit scope.offset
        ((scope.query columns (t.render d)).block.headText d
          (d.selectPaging scope.limit scope.offset) ++ filter ++ "" ++ ""
          ++ orderClause scope.ordering (d.selectPaging scope.limit scope.offset)
          ++ (d.selectPaging scope.limit scope.offset).trailing))
    rw [RowScope.headText_query, String.append_empty, String.append_empty]
    rfl

/-! ## The text around the query -/

/-- The dialects that put a query into a bounded change. -/
def Dialect.rewriting : List Dialect := [.postgreSql, .sqlite, .msSql, .oracle, .db2]

/-- Whether a scope bounds a change in a dialect: by its limit or offset, and, where rows are chosen
by an identifying column, by its order alone as well. -/
def Dialect.bounds (d : Dialect) (scope : RowScope) : Bool :=
  match d with
  | .postgreSql | .sqlite => !scope.ordering.isEmpty || decide (scope.limit > 0) ||
      decide (scope.offset > 0)
  | _ => decide (scope.limit > 0) || decide (scope.offset > 0)

namespace Change

/-- The columns of the query inside a bounded change; none stands for all. -/
def shownColumns (change : Change) (d : Dialect) : List String :=
  match d, change with
  | .postgreSql, _ => ["ctid"]
  | .sqlite, _ => ["rowid"]
  | .oracle, .update _ => ["ROWID AS \"rid\""]
  | _, _ => []

/-- **The fixed text in front of the query** inside a bounded change, and behind it. -/
def frame (change : Change) (d : Dialect) (t : TableRef) : String × String :=
  match d, change with
  | .postgreSql, change => (change.over (t.render d) ++ " WHERE ctid = any(array(", "))")
  | .sqlite, change => (change.over (t.render d) ++ " WHERE rowid IN (", ")")
  | .msSql, change => ("WITH " ++ queryName t ++ " AS (", ") " ++ change.over (queryName t))
  | .oracle, .update sets =>
    ("UPDATE " ++ t.render d ++ " SET " ++ sets ++ " WHERE ROWID IN (SELECT \"rid\" FROM (", "))")
  | _, .update sets => ("UPDATE (", ") SET " ++ sets)
  | _, .delete => ("DELETE FROM (", ")")

/-- A change with its query in place of the table. -/
theorem over_query (change : Change) (d : Dialect) (t : TableRef) (rows : String)
    (hd : d = .db2 ∨ d = .oracle ∧ change = .delete) :
    change.over ("(" ++ rows ++ ")") = (change.frame d t).1 ++ rows ++ (change.frame d t).2 := by
  have hdelete : ∀ a b c : String, a ++ (b ++ rows ++ c) = (a ++ b) ++ rows ++ c := by
    intro a b c
    simp only [String.append_assoc]
  have hupdate : ∀ a b c e sets : String,
      a ++ (b ++ rows ++ c) ++ e ++ sets = (a ++ b) ++ rows ++ ((c ++ e) ++ sets) := by
    intro a b c e sets
    simp only [String.append_assoc]
  rcases hd with rfl | ⟨rfl, rfl⟩
  · cases change with
    | update sets => exact hupdate "UPDATE " "(" ")" " SET " sets
    | delete => exact hdelete "DELETE FROM " "(" ")"
  · exact hdelete "DELETE FROM " "(" ")"

/-- **A bounded change is the SELECT of its rows in a fixed frame**, in the dialects that put a
query into it. -/
theorem render_of_bounds {d : Dialect} (hd : d ∈ Dialect.rewriting) {scope : RowScope}
    (hscope : d.bounds scope = true) (change : Change) (t : TableRef) :
    change.render d t scope
      = (Query.render d (scope.query (change.shownColumns d) (t.render d))).map fun rows =>
        (change.frame d t).1 ++ rows ++ (change.frame d t).2 := by
  have hall : scope.selection d "*" t = Query.render d (scope.query [] (t.render d)) :=
    scope.selection_eq_render d [] t
  have hone : ∀ column, scope.selection d column t
      = Query.render d (scope.query [column] (t.render d)) := by
    intro column
    have hcolumn : ", ".intercalate [column] = column := String.intercalate_singleton
    rw [← scope.selection_eq_render d [column] t]
    exact congrArg (scope.selection d · t) hcolumn.symm
  have hmap : ∀ (x : DbResult String) (f : String → String),
      (x >>= fun rows => pure (f rows)) = x.map f := by
    intro x f
    cases x <;> rfl
  have hwhere : ∀ (target opening : String), change.over target ++ " WHERE " ++ opening
      = change.over target ++ (" WHERE " ++ opening) := fun _ _ => String.append_assoc
  cases d
  case standard | firebird | mariaDb | mySql => exact absurd hd (by decide)
  case postgreSql | sqlite =>
    -- Rows are chosen by an identifying column, so the order alone bounds the change too.
    have hbounded : scope.isBounded = true := by
      simpa [Dialect.bounds, RowScope.isBounded, RowScope.hasWindow, or_assoc] using hscope
    refine (if_pos hbounded).trans ?_
    rw [hmap, hone, hwhere]
    rfl
  case msSql =>
    refine (if_pos hscope).trans ?_
    rw [hmap, RowScope.namedSelection_eq_selection hscope, hall]
    exact congrArg (Except.map · _) (funext fun rows => String.append_assoc)
  case oracle =>
    refine (if_pos hscope).trans ?_
    cases change with
    | delete =>
      dsimp only
      rw [hmap, hall]
      exact congrArg (Except.map · _)
        (funext fun rows => over_query .delete .oracle t rows (Or.inr ⟨rfl, rfl⟩))
    | update sets =>
      -- The query shows the row identifiers under a name of its own.
      have hid : Dialect.oracle.aliasName "rid" = "\"rid\"" := by decide
      have hassoc : ∀ a b c e : String, a ++ b ++ c ++ e = a ++ (b ++ c ++ e) := by
        intro a b c e
        simp only [String.append_assoc]
      dsimp only
      rw [hid, hmap, hone, hassoc]
      rfl
  case db2 =>
    refine (if_pos hscope).trans ?_
    rw [hmap, hall]
    exact congrArg (Except.map · _) (funext fun rows => change.over_query .db2 t rows (Or.inl rfl))

end Change

/-! ## UPDATE and DELETE -/

/-- A dialect that puts a query into a change can skip rows in it. -/
theorem Dialect.checkOffset_of_rewriting {d : Dialect} (hd : d ∈ Dialect.rewriting)
    (scope : RowScope) : d.checkOffset scope = .ok () := by
  have hskips : d.skipsRows = true := by
    revert hd
    cases d <;> decide
  rw [Dialect.checkOffset, hskips]
  rfl

/-- **A bounded DELETE or UPDATE acts on the rows of the dialect's SELECT.** In the dialects that
put a query into a bounded change, the statement fails exactly as the SELECT with the same WHERE
list, order and bounds does, and is otherwise the text of that SELECT in a fixed frame. -/
theorem render_bounded_eq_framed_select {d : Dialect} (hd : d ∈ Dialect.rewriting) (t : TableRef)
    {scope : RowScope} (hscope : d.bounds scope = true) :
    DeleteData.render d ⟨some t, scope⟩
      = (Query.render d (scope.query (Change.delete.shownColumns d) (t.render d))).map (fun rows =>
        (Change.delete.frame d t).1 ++ rows ++ (Change.delete.frame d t).2) ∧
    ∀ assignments : Entries String String, assignments ≠ [] →
      let change := Change.update (UpdateData.setText ⟨some t, assignments, scope⟩ d)
      UpdateData.render d ⟨some t, assignments, scope⟩
        = (Query.render d (scope.query (change.shownColumns d) (t.render d))).map fun rows =>
          (change.frame d t).1 ++ rows ++ (change.frame d t).2 := by
  constructor
  · rw [DeleteData.render, Dialect.checkOffset_of_rewriting hd]
    exact Change.render_of_bounds hd hscope .delete t
  · intro assignments hne change
    have htarget : UpdateData.checkedTarget ⟨some t, assignments, scope⟩ = .ok t := by
      simp [UpdateData.checkedTarget, hne]
    rw [UpdateData.render, Dialect.checkOffset_of_rewriting hd, htarget]
    exact Change.render_of_bounds hd hscope change t

/-- Five rows in order, behind a skipped one, are deleted through the query, and updated through the
identifiers that it shows. -/
theorem render_bounded_update_in_order :
    let scope : RowScope := ⟨.empty, ["\"age\" ASC"], 5, 1⟩
    Dialect.oracle ∈ Dialect.rewriting ∧ Dialect.oracle.bounds scope = true ∧
    DeleteData.render .oracle ⟨some ⟨"users", none⟩, scope⟩
      = (Query.render .oracle (scope.query [] "\"users\"")).map (fun rows =>
        "DELETE FROM (" ++ rows ++ ")") ∧
    UpdateData.render .oracle ⟨some ⟨"users", none⟩, [("age", "0")], scope⟩
      = (Query.render .oracle (scope.query ["ROWID AS \"rid\""] "\"users\"")).map fun rows =>
        "UPDATE \"users\" SET \"age\" = 0 WHERE ROWID IN (SELECT \"rid\" FROM (" ++ rows
          ++ "))" := by
  have hd : Dialect.oracle ∈ Dialect.rewriting := by decide
  have hscope : Dialect.oracle.bounds ⟨.empty, ["\"age\" ASC"], 5, 1⟩ = true := by decide
  have hboth := render_bounded_eq_framed_select hd ⟨"users", none⟩ hscope
  have htable : TableRef.render ⟨"users", none⟩ .oracle = "\"users\"" := by decide
  have hsets : UpdateData.setText ⟨some ⟨"users", none⟩, [("age", "0")],
      ⟨.empty, ["\"age\" ASC"], 5, 1⟩⟩ .oracle = "\"age\" = 0" := by decide
  have hupdate := hboth.2 [("age", "0")] (by simp)
  refine ⟨hd, hscope, ?_, ?_⟩
  · rw [hboth.1, htable]
    rfl
  · rw [hupdate, hsets, htable]
    simp only [Change.shownColumns, Change.frame, htable]
    rfl

end SqlBuilder
