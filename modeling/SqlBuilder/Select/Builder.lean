import SqlBuilder.Command
import SqlBuilder.Comparison
import SqlBuilder.Select

/-! # Building SELECT statements

A `Select` is a query under construction in one dialect: names and values are quoted as they come
in.  A join condition that comes before any join has nowhere to go; it is remembered as the
statement's fault.  `SelectStep` is a builder call as data, and `Select.run` makes a sequence of
them. -/

namespace SqlBuilder

/-- A SELECT under construction. -/
structure Select where
  /-- The dialect in which names and values are written. -/
  dialect : Dialect
  /-- What was built so far. -/
  query : Query
  /-- A join condition or shared column that came before the first join. -/
  misuse : Option ArgumentFault

namespace Select

/-- A SELECT without clauses. -/
def new (d : Dialect) : Select := ⟨d, .empty, none⟩

/-- Change the clauses of the SELECT itself. -/
def modifyBlock (s : Select) (f : SelectBlock → SelectBlock) : Select :=
  ⟨s.dialect, ⟨f s.query.block, s.query.combined⟩, s.misuse⟩

/-- Whether equal rows are merged. -/
def distinct (s : Select) (merged : Bool) : Select :=
  s.modifyBlock fun b => { b with distinct := merged }

/-- Add selected columns in SQL. -/
def addColumns (s : Select) (columns : List String) : Select :=
  s.modifyBlock fun b => { b with columns := b.columns ++ columns }

/-- Select a column. -/
def column (s : Select) (name : String) : Select := s.addColumns [s.dialect.identifier name]

/-- Select columns. -/
def columns (s : Select) (names : List String) : Select :=
  s.addColumns (names.map s.dialect.identifier)

/-- Select a column under another name. -/
def columnAs (s : Select) (name aliasName : String) : Select :=
  s.addColumns [s.dialect.identifier name ++ " AS " ++ s.dialect.aliasName aliasName]

/-- Select an SQL expression, under a name or not. -/
def expression (s : Select) (sql : String) (aliasName : Option String) : Select :=
  s.addColumns [match aliasName with
    | some a => sql ++ " AS " ++ s.dialect.aliasName a
    | none => sql]

/-- Read from a source in SQL. -/
def fromRaw (s : Select) (sql : String) : Select :=
  s.modifyBlock fun b => { b with sources := b.sources ++ [sql] }

/-- Read from a table. -/
def fromTable (s : Select) (t : TableRef) : Select := s.fromRaw (t.render s.dialect)

/-- Join a table. -/
def join (s : Select) (t : TableRef) (kind : JoinKind) : Select :=
  s.modifyBlock fun b => { b with joins := b.joins ++ [⟨kind, t.render s.dialect, [], []⟩] }

/-- Change the last join, or remember the fault if there is none. -/
def modifyJoin (s : Select) (fault : ArgumentFault) (f : Join → Join) : Select :=
  match s.query.block.joins.getLast? with
  | some last =>
    s.modifyBlock fun b => { b with joins := b.joins.dropLast ++ [f last] }
  | none => ⟨s.dialect, s.query, some fault⟩

/-- Add a comparison of two columns to the last join. -/
def on (s : Select) (left : String) (op : Operator) (right : String) : Select :=
  let condition :=
    s.dialect.identifier left ++ " " ++ op.keyword ++ " " ++ s.dialect.identifier right
  s.modifyJoin .conditionWithoutJoin fun j => { j with conditions := j.conditions ++ [condition] }

/-- Add a shared column to the last join. -/
def sharing (s : Select) (name : String) : Select :=
  s.modifyJoin .sharedColumnWithoutJoin fun j =>
    { j with sharedColumns := j.sharedColumns ++ [s.dialect.identifier name] }

/-- Add a condition to the WHERE list. -/
def filter (s : Select) (c : Condition) : Select :=
  s.modifyBlock fun b => { b with filter := b.filter.add s.dialect c }

/-- Add a condition to the HAVING list. -/
def having (s : Select) (c : Condition) : Select :=
  s.modifyBlock fun b => { b with having := b.having.add s.dialect c }

/-- Group by a column. -/
def groupBy (s : Select) (name : String) : Select :=
  s.modifyBlock fun b => { b with grouping := b.grouping ++ [s.dialect.identifier name] }

/-- Order by an SQL expression. -/
def orderByRaw (s : Select) (sql : String) : Select :=
  s.modifyBlock fun b => { b with ordering := b.ordering ++ [sql] }

/-- Order by a column. -/
def orderBy (s : Select) (name : String) (order : SortOrder) : Select :=
  s.orderByRaw (s.dialect.orderTerm name order)

/-- Keep so many rows; zero keeps all. -/
def limit (s : Select) (n : UInt64) : Select := s.modifyBlock fun b => { b with limit := n }

/-- Skip so many rows. -/
def offset (s : Select) (n : UInt64) : Select := s.modifyBlock fun b => { b with offset := n }

/-- Append another SELECT's query behind a set operator. -/
def combine (s : Select) (op : SetOperator) (other : Select) : Select :=
  ⟨s.dialect, ⟨s.query.block, s.query.combined ++ [(op, other.query)]⟩, s.misuse⟩

/-- Forget everything but the dialect. -/
def reset (s : Select) : Select := new s.dialect

/-- The text of the statement. -/
def statement (s : Select) (terminated : Bool) : DbResult String :=
  match s.misuse with
  | some fault => refuse fault
  | none => (s.query.render s.dialect).map fun sql => terminate sql terminated

/-- The statement as a command. -/
def command (s : Select) : DbResult Command := (s.statement false).map .ofText

end Select

/-! ## Builder calls as data -/

/-- A call on a SELECT under construction. -/
inductive SelectStep where
  | distinct (merged : Bool)
  | columns (names : List String)
  | columnAs (name aliasName : String)
  | expression (sql : String) (aliasName : Option String)
  | fromTable (t : TableRef)
  | fromRaw (sql : String)
  | join (t : TableRef) (kind : JoinKind)
  | on (left : String) (op : Operator) (right : String)
  | sharing (name : String)
  | filter (c : Condition)
  | having (c : Condition)
  | groupBy (name : String)
  | orderBy (name : String) (order : SortOrder)
  | orderByRaw (sql : String)
  | limit (n : UInt64)
  | offset (n : UInt64)
  | combine (op : SetOperator) (dialect : Dialect) (steps : List SelectStep)
  | reset

mutual

/-- The SELECT after one call. -/
def Select.apply (s : Select) : SelectStep → Select
  | .distinct merged => s.distinct merged
  | .columns names => s.columns names
  | .columnAs name aliasName => s.columnAs name aliasName
  | .expression sql aliasName => s.expression sql aliasName
  | .fromTable t => s.fromTable t
  | .fromRaw sql => s.fromRaw sql
  | .join t kind => s.join t kind
  | .on left op right => s.on left op right
  | .sharing name => s.sharing name
  | .filter c => s.filter c
  | .having c => s.having c
  | .groupBy name => s.groupBy name
  | .orderBy name order => s.orderBy name order
  | .orderByRaw sql => s.orderByRaw sql
  | .limit n => s.limit n
  | .offset n => s.offset n
  | .combine op dialect steps => s.combine op ((Select.new dialect).run steps)
  | .reset => s.reset
termination_by structural step => step

/-- The SELECT after a sequence of calls. -/
def Select.run (s : Select) : List SelectStep → Select
  | [] => s
  | step :: steps => (s.apply step).run steps
termination_by structural steps => steps

end

end SqlBuilder
