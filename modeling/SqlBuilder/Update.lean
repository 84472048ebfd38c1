import SqlBuilder.Change
import SqlBuilder.Command
import SqlBuilder.Entries

/-! # UPDATE statements

An UPDATE has a table, assignments and the scope of rows that it changes.  A column that is assigned
twice keeps its place and takes the last value. -/

namespace SqlBuilder

/-- What an UPDATE changes. -/
structure UpdateData where
  /-- The table. -/
  target : Option TableRef
  /-- The assigned columns with values in SQL. -/
  assignments : Entries String String
  /-- The rows to change. -/
  scope : RowScope
deriving Repr, DecidableEq

namespace UpdateData

/-- The UPDATE of nothing. -/
def empty : UpdateData := ⟨none, [], .all⟩

/-- The table, if the statement has one and assigns something. -/
def checkedTarget (data : UpdateData) : DbResult TableRef :=
  match data.target with
  | none => refuse .updateWithoutTarget
  | some t => if data.assignments.isEmpty then refuse .updateWithoutAssignments else .ok t

/-- The assignments as the dialect writes them. -/
def setText (data : UpdateData) (d : Dialect) : String :=
  ", ".intercalate (data.assignments.map fun a => d.identifier a.1 ++ " = " ++ a.2)

/-- The text of the statement. -/
def render (d : Dialect) (data : UpdateData) : DbResult String := do
  d.checkOffset data.scope
  let t ← data.checkedTarget
  Change.render (.update (data.setText d)) d t data.scope

end UpdateData

/-! ## Building -/

/-- An UPDATE under construction. -/
structure Update where
  /-- The dialect in which names and values are written. -/
  dialect : Dialect
  /-- What was built so far. -/
  data : UpdateData

namespace Update

/-- An UPDATE of nothing. -/
def new (d : Dialect) : Update := ⟨d, .empty⟩

/-- Update a table. -/
def table (s : Update) (t : TableRef) : Update := ⟨s.dialect, { s.data with target := some t }⟩

/-- Assign a value to a column. -/
def set (s : Update) (column : String) (v : Value) : Update :=
  ⟨s.dialect,
    { s.data with assignments := s.data.assignments.put column (s.dialect.literal v) }⟩

/-- Assign an SQL expression to a column. -/
def setRaw (s : Update) (column sql : String) : Update := s.set column (.raw sql)

/-- Change the scope. -/
def modifyScope (s : Update) (f : RowScope → RowScope) : Update :=
  ⟨s.dialect, { s.data with scope := f s.data.scope }⟩

/-- Forget everything but the dialect. -/
def reset (s : Update) : Update := new s.dialect

/-- The text of the statement. -/
def statement (s : Update) (terminated : Bool) : DbResult String :=
  (s.data.render s.dialect).map fun sql => terminate sql terminated

/-- The statement as a command. -/
def command (s : Update) : DbResult Command := (s.statement false).map .ofText

end Update

/-- A call on an UPDATE under construction. -/
inductive UpdateStep where
  | table (t : TableRef)
  | set (column : String) (v : Value)
  | setRaw (column sql : String)
  | scope (step : ScopeStep)
  | reset

/-- The UPDATE after one call. -/
def Update.apply (s : Update) : UpdateStep → Update
  | .table t => s.table t
  | .set column v => s.set column v
  | .setRaw column sql => s.setRaw column sql
  | .scope step => s.modifyScope fun scope => scope.apply s.dialect step
  | .reset => s.reset

/-- The UPDATE after a sequence of calls. -/
def Update.run (s : Update) (steps : List UpdateStep) : Update := steps.foldl Update.apply s

end SqlBuilder
