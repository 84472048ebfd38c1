import SqlBuilder.Comparison
import SqlBuilder.Paging

/-! # Changing a bounded part of a table

UPDATE and DELETE name a table and the rows of it to be changed: a WHERE list, an order, a limit and
an offset.  Some dialects put all of these behind the statement.  The others have no bounds on a
change; there, a bounded change acts on a selection of rows, and the order of an
unbounded change, which has no effect, is left out. -/

namespace SqlBuilder

/-- Which rows of a table a change affects. -/
structure RowScope where
  /-- The WHERE list. -/
  filter : Predicates
  /-- The ORDER BY list. -/
  ordering : List String
  /-- The number of rows to change, or zero for all. -/
  limit : UInt64
  /-- The number of rows to skip. -/
  offset : UInt64
deriving Repr, DecidableEq

namespace RowScope

/-- Every row. -/
def all : RowScope := ⟨.empty, [], 0, 0⟩

/-- Whether the scope has a limit or an offset. -/
def hasWindow (scope : RowScope) : Bool := decide (scope.limit > 0) || decide (scope.offset > 0)

/-- Whether the scope has an order, a limit or an offset. -/
def isBounded (scope : RowScope) : Bool := !scope.ordering.isEmpty || scope.hasWindow

@[simp] theorem hasWindow_all : all.hasWindow = false := rfl

@[simp] theorem isBounded_all : all.isBounded = false := rfl

/-- A query for the rows of the scope in a table, showing the given columns, with the dialect's
paging. -/
def selection (scope : RowScope) (d : Dialect) (columns : String) (table : TableRef) :
    DbResult String := do
  let paging := d.selectPaging scope.limit scope.offset
  let filter ← scope.filter.whereClause
  return d.window scope.limit scope.offset
    ("SELECT " ++ paging.beforeDistinct ++ paging.afterDistinct ++ columns ++ " FROM "
      ++ table.render d ++ filter ++ orderClause scope.ordering paging ++ paging.trailing)

/-- The query for the rows of a bounded scope that stands in front of a change under a name.  It
chooses between TOP and OFFSET by itself: TOP with any limit if no row is skipped, and OFFSET behind
the order otherwise. -/
def namedSelection (scope : RowScope) (d : Dialect) (table : TableRef) : DbResult String := do
  let top := if scope.offset = 0 then "TOP " ++ countText scope.limit ++ " " else ""
  let filter ← scope.filter.whereClause
  let skipping := PagingClause.fetchNext scope.offset (nonzero scope.limit)
  let skipped :=
    if scope.offset > 0 then
      (if scope.ordering.isEmpty then skipping.orderFiller else "") ++ skipping.trailing
    else ""
  return "SELECT " ++ top ++ "* FROM " ++ table.render d ++ filter
    ++ orderClause scope.ordering .unpaged ++ skipped

/-- **The named query is the dialect's SELECT** of the rows of a bounded scope: its own choice
between TOP and OFFSET is the paging of a SELECT. -/
theorem namedSelection_eq_selection {scope : RowScope} (hwindow : scope.hasWindow = true)
    (table : TableRef) :
    scope.namedSelection .msSql table = scope.selection .msSql "*" table := by
  have hstar : "* FROM " = "*" ++ " FROM " := rfl
  rw [namedSelection, selection, hstar]
  cases scope.filter.whereClause with
  | error e => rfl
  | ok filter =>
    refine congrArg Except.ok ?_
    by_cases hskip : scope.offset = 0
    · -- No row is skipped, so the scope has a limit.
      have hlimit : scope.limit ≠ 0 := by
        intro hlimit
        simp [hasWindow, hskip, hlimit] at hwindow
      have hpaging : Dialect.selectPaging .msSql scope.limit scope.offset = .top scope.limit := by
        simp [Dialect.selectPaging, nonzero, hskip, hlimit]
      rw [hpaging, if_pos hskip, if_neg (by simp [hskip])]
      simp [PagingClause.beforeDistinct, PagingClause.afterDistinct, PagingClause.trailing,
        PagingClause.orderFiller, orderClause, Dialect.window, String.append_assoc]
    · have hpaging : Dialect.selectPaging .msSql scope.limit scope.offset
          = .fetchNext scope.offset (nonzero scope.limit) := if_neg hskip
      rw [hpaging, if_neg hskip, if_pos (UInt64.pos_iff_ne_zero.2 hskip)]
      by_cases horder : scope.ordering.isEmpty = true <;>
        simp [horder, PagingClause.beforeDistinct, PagingClause.afterDistinct, orderClause,
          PagingClause.orderFiller, Dialect.window, String.append_assoc]

end RowScope

/-! ## Building a scope -/

/-- A change of the scope of an UPDATE or DELETE. -/
inductive ScopeStep where
  | filter (c : Condition)
  | orderBy (name : String) (order : SortOrder)
  | limit (n : UInt64)
  | offset (n : UInt64)

/-- The scope after a change in a dialect. -/
def RowScope.apply (scope : RowScope) (d : Dialect) : ScopeStep → RowScope
  | .filter c => { scope with filter := scope.filter.add d c }
  | .orderBy name order => { scope with ordering := scope.ordering ++ [d.orderTerm name order] }
  | .limit n => { scope with limit := n }
  | .offset n => { scope with offset := n }

/-! ## The two changes -/

/-- What happens to the rows. -/
inductive Change where
  /-- They get new values: the text of the assignments. -/
  | update (assignments : String)
  /-- They are removed. -/
  | delete
deriving Repr, DecidableEq

/-- The change of everything in a target. -/
def Change.over (change : Change) (target : String) : String :=
  match change with
  | .update assignments => "UPDATE " ++ target ++ " SET " ++ assignments
  | .delete => "DELETE FROM " ++ target

/-! ## The idiom of each dialect -/

/-- How a dialect bounds a change. -/
inductive BoundingStyle where
  /-- Order and bounds stand behind the statement. -/
  | trailing
  /-- The rows are chosen by their identity: the identifying column, and the texts around the query
  for it.  An order alone counts as a bound. -/
  | byRowId (column opening closing : String)
  /-- A named query in front of the statement is changed. -/
  | namedQuery
  /-- A query in place of the table is changed. -/
  | inPlaceQuery
  /-- Rows are removed in place, and updated by their identity. -/
  | numberedRows
deriving Repr, DecidableEq

/-- How the dialect bounds a change. -/
def Dialect.bounding : Dialect → BoundingStyle
  | .standard | .mariaDb | .mySql | .firebird => .trailing
  | .postgreSql => .byRowId "ctid" "ctid = any(array(" "))"
  | .sqlite => .byRowId "rowid" "rowid IN (" ")"
  | .msSql => .namedQuery
  | .db2 => .inPlaceQuery
  | .oracle => .numberedRows

/-- Whether the dialect can skip rows in a change. -/
def Dialect.skipsRows : Dialect → Bool
  | .mariaDb | .mySql => false
  | _ => true

/-- Refuse an offset where the dialect cannot skip rows. -/
def Dialect.checkOffset (d : Dialect) (scope : RowScope) : DbResult Unit :=
  if !d.skipsRows && decide (scope.offset > 0) then .error (.unsupported d .offsetInChange)
  else .ok ()

/-- A name without the quotes of any style at its ends. -/
def unquoted (name : String) : String :=
  String.ofList (Text.stripBoth (fun c => c = '[' || c = ']' || c = '"' || c = '\x60') name.toList)

/-- The name of the query in front of a bounded change: `t0`, unless the table or its alias has that
name. -/
def queryName (table : TableRef) : String :=
  let isTaken := fun name => Text.equalIgnoringCase (unquoted name) "t0"
  if isTaken (Text.lastPiece '.' table.name) || table.aliasName.any isTaken then "t1" else "t0"

namespace Change

/-- The change of the rows of the scope, as the statement itself bounds it. -/
def direct (change : Change) (d : Dialect) (table : TableRef) (scope : RowScope) :
    DbResult String := do
  let filter ← scope.filter.whereClause
  return change.over (table.render d) ++ filter

/-- The change with order and bounds behind it. -/
def withTrailing (change : Change) (d : Dialect) (table : TableRef) (scope : RowScope) :
    DbResult String := do
  let paging := d.changePaging scope.limit scope.offset
  let filter ← scope.filter.whereClause
  return change.over (table.render d) ++ filter ++ orderClause scope.ordering paging
    ++ paging.trailing

/-- The text of a change of the rows of a scope. -/
def render (change : Change) (d : Dialect) (table : TableRef) (scope : RowScope) :
    DbResult String :=
  match d.bounding with
  | .trailing => change.withTrailing d table scope
  | .byRowId column opening closing =>
    if scope.isBounded then do
      let rows ← scope.selection d column table
      return change.over (table.render d) ++ " WHERE " ++ opening ++ rows ++ closing
    else change.direct d table scope
  | .namedQuery =>
    if scope.hasWindow then do
      let rows ← scope.namedSelection d table
      let name := queryName table
      return "WITH " ++ name ++ " AS (" ++ rows ++ ") " ++ change.over name
    else change.direct d table scope
  | .inPlaceQuery =>
    if scope.hasWindow then do
      let rows ← scope.selection d "*" table
      return change.over ("(" ++ rows ++ ")")
    else change.direct d table scope
  | .numberedRows =>
    if scope.hasWindow then
      match change with
      | .delete => do
        let rows ← scope.selection d "*" table
        return change.over ("(" ++ rows ++ ")")
      | .update _ => do
        let id := d.aliasName "rid"
        let rows ← scope.selection d ("ROWID AS " ++ id) table
        return change.over (table.render d) ++ " WHERE ROWID IN (SELECT " ++ id ++ " FROM ("
          ++ rows ++ "))"
    else change.direct d table scope

end Change

end SqlBuilder
