import SqlBuilder.Paging
import SqlBuilder.Predicates

/-! # SELECT statements

A query is a block of clauses and a list of further queries that set operators append to it.  The
clauses hold SQL text: names are quoted when they are put in.  `SelectBlock.render` writes the
clauses with the dialect's paging, `Query.render` appends the combined queries, each rendered in the
same dialect. -/

namespace SqlBuilder

/-- A joined table. -/
structure Join where
  /-- The kind of join. -/
  kind : JoinKind
  /-- The table in SQL. -/
  table : String
  /-- The conditions of an ON clause. -/
  conditions : List String
  /-- The columns of a USING clause. -/
  sharedColumns : List String
deriving Repr, DecidableEq

/-- The text of a join.  Shared columns count only if there are no conditions. -/
def Join.render (j : Join) : String :=
  let head := j.kind.keyword ++ " " ++ j.table
  if !j.conditions.isEmpty then head ++ " ON (" ++ " AND ".intercalate j.conditions ++ ")"
  else if !j.sharedColumns.isEmpty then
    head ++ " USING (" ++ ", ".intercalate j.sharedColumns ++ ")"
  else head

/-- The clauses of one SELECT. -/
structure SelectBlock where
  /-- Whether equal rows are merged. -/
  distinct : Bool
  /-- The selected columns; none stands for all. -/
  columns : List String
  /-- The tables and subqueries that are read. -/
  sources : List String
  /-- The joined tables. -/
  joins : List Join
  /-- The WHERE list. -/
  filter : Predicates
  /-- The GROUP BY list. -/
  grouping : List String
  /-- The HAVING list. -/
  having : Predicates
  /-- The ORDER BY list. -/
  ordering : List String
  /-- The number of rows to keep, or zero for all. -/
  limit : UInt64
  /-- The number of rows to skip. -/
  offset : UInt64
deriving Repr, DecidableEq

/-- The block without clauses. -/
def SelectBlock.empty : SelectBlock :=
  ⟨false, [], [], [], .empty, [], .empty, [], 0, 0⟩

instance : Inhabited SelectBlock := ⟨SelectBlock.empty⟩

namespace SelectBlock

/-- The selected columns, or a star. -/
def columnText (b : SelectBlock) : String :=
  if b.columns.isEmpty then "*" else ", ".intercalate b.columns

/-- The FROM clause; without sources, the dialect's dummy table if it has one. -/
def fromClause (b : SelectBlock) (d : Dialect) : String :=
  if !b.sources.isEmpty then " FROM " ++ ", ".intercalate b.sources
  else match d.dummyTable with
    | some table => " FROM " ++ table
    | none => ""

/-- The joins, each after a blank. -/
def joinClause (b : SelectBlock) : String := String.join (b.joins.map fun j => " " ++ j.render)

/-- The GROUP BY clause. -/
def groupClause (b : SelectBlock) : String :=
  if b.grouping.isEmpty then "" else " GROUP BY " ++ ", ".intercalate b.grouping

/-- Everything up to WHERE, with the paging that belongs to the head. -/
def headText (b : SelectBlock) (d : Dialect) (paging : PagingClause) : String :=
  "SELECT " ++ paging.beforeDistinct ++ (if b.distinct then "DISTINCT " else "")
    ++ paging.afterDistinct ++ b.columnText ++ b.fromClause d ++ b.joinClause

/-- The text of the clauses with the dialect's paging. -/
def render (d : Dialect) (b : SelectBlock) : DbResult String := do
  let paging := d.selectPaging b.limit b.offset
  let filter ← b.filter.whereClause
  let having ← b.having.havingClause
  return d.window b.limit b.offset
    (b.headText d paging ++ filter ++ b.groupClause ++ having
      ++ orderClause b.ordering paging ++ paging.trailing)

end SelectBlock

/-! ## Combined queries -/

/-- A SELECT with the queries that set operators append to it. -/
structure Query where
  /-- The clauses of the first SELECT. -/
  block : SelectBlock
  /-- The appended queries, in order. -/
  combined : List (SetOperator × Query)

/-- The query without clauses. -/
def Query.empty : Query := ⟨.empty, []⟩

instance : Inhabited Query := ⟨Query.empty⟩

mutual

/-- The text of a query: its own clauses, then the combined queries. -/
def Query.render (d : Dialect) : Query → DbResult String
  | ⟨block, combined⟩ => do
    let own ← block.render d
    let rest ← Query.renderParts d combined
    return own ++ rest
termination_by structural q => q

/-- The texts of combined queries, one after the other. -/
def Query.renderParts (d : Dialect) : List (SetOperator × Query) → DbResult String
  | [] => .ok ""
  | part :: rest => do
    let first ← Query.renderPart d part
    let others ← Query.renderParts d rest
    return first ++ others
termination_by structural parts => parts

/-- The text of a combined query behind its set operator. -/
def Query.renderPart (d : Dialect) : SetOperator × Query → DbResult String
  | (op, q) => do
    let sql ← q.render d
    return " " ++ op.keyword ++ " " ++ sql
termination_by structural part => part

end

end SqlBuilder
