import SqlBuilder.Command
import SqlBuilder.Entries
import SqlBuilder.Error
import SqlBuilder.Identifier
import SqlBuilder.Literal

/-! # INSERT statements

An INSERT has a table, declared columns and rows of cells.  A row may lack columns: rows are aligned
to one list of columns when the statement is rendered, and a missing cell becomes `NULL`.  One
dialect has no VALUES list of several rows and repeats the INTO part instead. -/

namespace SqlBuilder

/-- The cells of a row: columns with values in SQL. -/
abbrev InsertRow : Type := Entries String String

/-- What an INSERT inserts where. -/
structure InsertData where
  /-- The table. -/
  target : Option TableRef
  /-- The columns that were declared. -/
  columns : List String
  /-- The rows. -/
  rows : List InsertRow
deriving Repr, DecidableEq

namespace InsertData

/-- The INSERT of nothing. -/
def empty : InsertData := ⟨none, [], []⟩

/-- Add a name to a list of columns unless it is there. -/
def addColumn (columns : List String) (name : String) : List String :=
  if columns.contains name then columns else columns ++ [name]

/-- The columns of the statement: the declared ones, then those of the cells as they come. -/
def columnList (data : InsertData) : List String :=
  (data.rows.flatMap Entries.keys).foldl addColumn data.columns

/-- The cells of a row in the order of the columns. -/
def aligned (columns : List String) (row : InsertRow) : List String :=
  columns.map fun name => (row.find name).getD "NULL"

/-- The rows with one cell for each column of the statement. -/
def alignedRows (data : InsertData) : List (List String) :=
  data.rows.map (aligned data.columnList)

/-- The table, if the statement has one, a row and a column. -/
def checkedTarget (data : InsertData) : DbResult TableRef :=
  match data.target with
  | none => refuse .insertWithoutTarget
  | some t =>
    if data.rows.isEmpty || data.columnList.isEmpty then refuse .insertWithoutValues else .ok t

/-- The columns of the statement as the dialect writes them. -/
def columnText (data : InsertData) (d : Dialect) : String :=
  ", ".intercalate (data.columnList.map d.identifier)

/-- Cells in parentheses. -/
def rowText (cells : List String) : String := "(" ++ ", ".intercalate cells ++ ")"

/-- A statement with one VALUES list. -/
def valuesForm (data : InsertData) (d : Dialect) (t : TableRef) : String :=
  "INSERT INTO " ++ t.render d ++ " (" ++ data.columnText d ++ ") VALUES "
    ++ ", ".intercalate (data.alignedRows.map rowText)

/-- A statement that repeats the INTO part for every row. -/
def allForm (data : InsertData) (d : Dialect) (t : TableRef) : String :=
  "INSERT ALL"
    ++ String.join (data.alignedRows.map fun cells =>
      " INTO " ++ t.render d ++ " (" ++ data.columnText d ++ ") VALUES " ++ rowText cells)
    ++ " SELECT * FROM dual"

/-- Whether several rows need the form that repeats the INTO part. -/
def usesAllForm (data : InsertData) : Dialect → Bool
  | .oracle => decide (data.rows.length ≠ 1)
  | _ => false

/-- The text of the statement. -/
def render (d : Dialect) (data : InsertData) : DbResult String :=
  data.checkedTarget.map fun t =>
    if data.usesAllForm d then data.allForm d t else data.valuesForm d t

end InsertData

/-! ## Building -/

/-- An INSERT under construction. -/
structure Insert where
  /-- The dialect in which values are written. -/
  dialect : Dialect
  /-- What was built so far. -/
  data : InsertData

namespace Insert

/-- An INSERT of nothing. -/
def new (d : Dialect) : Insert := ⟨d, .empty⟩

/-- Insert into a table. -/
def into (s : Insert) (table : String) : Insert :=
  ⟨s.dialect, { s.data with target := some ⟨table, none⟩ }⟩

/-- Declare a column. -/
def column (s : Insert) (name : String) : Insert :=
  ⟨s.dialect, { s.data with columns := InsertData.addColumn s.data.columns name }⟩

/-- Declare columns. -/
def columns (s : Insert) (names : List String) : Insert := names.foldl column s

/-- Give a column of the last row a value; the first value starts the first row. -/
def value (s : Insert) (column : String) (v : Value) : Insert :=
  let rows := if s.data.rows.isEmpty then [[]] else s.data.rows
  let last := Entries.put column (s.dialect.literal v) ((rows.getLast?).getD [])
  ⟨s.dialect, { s.data with rows := rows.dropLast ++ [last] }⟩

/-- Add a row with its cells. -/
def row (s : Insert) (cells : List (String × Value)) : Insert :=
  let written := cells.map fun cell => (cell.1, s.dialect.literal cell.2)
  ⟨s.dialect, { s.data with rows := s.data.rows ++ [Entries.ofPairs written] }⟩

/-- Start a new row. -/
def nextRow (s : Insert) : Insert := ⟨s.dialect, { s.data with rows := s.data.rows ++ [[]] }⟩

/-- Forget everything but the dialect. -/
def reset (s : Insert) : Insert := new s.dialect

/-- The text of the statement. -/
def statement (s : Insert) (terminated : Bool) : DbResult String :=
  (s.data.render s.dialect).map fun sql => terminate sql terminated

/-- The statement as a command. -/
def command (s : Insert) : DbResult Command := (s.statement false).map .ofText

end Insert

/-- A call on an INSERT under construction. -/
inductive InsertStep where
  | into (table : String)
  | columns (names : List String)
  | value (column : String) (v : Value)
  | row (cells : List (String × Value))
  | nextRow
  | reset

/-- The INSERT after one call. -/
def Insert.apply (s : Insert) : InsertStep → Insert
  | .into table => s.into table
  | .columns names => s.columns names
  | .value column v => s.value column v
  | .row cells => s.row cells
  | .nextRow => s.nextRow
  | .reset => s.reset

/-- The INSERT after a sequence of calls. -/
def Insert.run (s : Insert) (steps : List InsertStep) : Insert := steps.foldl Insert.apply s

end SqlBuilder
