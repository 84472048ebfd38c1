import SqlBuilder.Change
import SqlBuilder.Command

/-! # DELETE statements

A DELETE has a table and the scope of rows that it removes. -/

namespace SqlBuilder

/-- What a DELETE removes. -/
structure DeleteData where
  /-- The table. -/
  target : Option TableRef
  /-- The rows to remove. -/
  scope : RowScope
deriving Repr, DecidableEq

namespace DeleteData

/-- The DELETE of nothing. -/
def empty : DeleteData := ⟨none, .all⟩

/-- The text of the statement. -/
def render (d : Dialect) (data : DeleteData) : DbResult String := do
  d.checkOffset data.scope
  let t ← orRefuse data.target .deleteWithoutTarget
  Change.render .delete d t data.scope

end DeleteData

/-! ## Building -/

/-- A DELETE under construction. -/
structure Delete where
  /-- The dialect in which names and values are written. -/
  dialect : Dialect
  /-- What was built so far. -/
  data : DeleteData

namespace Delete

/-- A DELETE of nothing. -/
def new (d : Dialect) : Delete := ⟨d, .empty⟩

/-- Delete from a table. -/
def fromTable (s : Delete) (t : TableRef) : Delete :=
  ⟨s.dialect, { s.data with target := some t }⟩

/-- Change the scope. -/
def modifyScope (s : Delete) (f : RowScope → RowScope) : Delete :=
  ⟨s.dialect, { s.data with scope := f s.data.scope }⟩

/-- Forget everything but the dialect. -/
def reset (s : Delete) : Delete := new s.dialect

/-- The text of the statement. -/
def statement (s : Delete) (terminated : Bool) : DbResult String :=
  (s.data.render s.dialect).map fun sql => terminate sql terminated

/-- The statement as a command. -/
def command (s : Delete) : DbResult Command := (s.statement false).map .ofText

end Delete

/-- A call on a DELETE under construction. -/
inductive DeleteStep where
  | fromTable (t : TableRef)
  | scope (step : ScopeStep)
  | reset

/-- The DELETE after one call. -/
def Delete.apply (s : Delete) : DeleteStep → Delete
  | .fromTable t => s.fromTable t
  | .scope step => s.modifyScope fun scope => scope.apply s.dialect step
  | .reset => s.reset

/-- The DELETE after a sequence of calls. -/
def Delete.run (s : Delete) (steps : List DeleteStep) : Delete := steps.foldl Delete.apply s

end SqlBuilder
