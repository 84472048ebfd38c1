import SqlBuilder.Delete
import SqlBuilder.Insert
import SqlBuilder.Select.Builder
import SqlBuilder.Update

/-! # Statements of any kind

A statement under construction is a SELECT, an INSERT, an UPDATE or a DELETE.  All of them have a
dialect, a text and a command. -/

namespace SqlBuilder

/-- A statement under construction. -/
inductive Statement where
  | select (s : Select)
  | insert (s : Insert)
  | update (s : Update)
  | delete (s : Delete)

namespace Statement

/-- The dialect in which the statement is written. -/
def dialect : Statement → Dialect
  | select s => s.dialect
  | insert s => s.dialect
  | update s => s.dialect
  | delete s => s.dialect

/-- The text of the statement. -/
def text (terminated : Bool) : Statement → DbResult String
  | select s => s.statement terminated
  | insert s => s.statement terminated
  | update s => s.statement terminated
  | delete s => s.statement terminated

/-- The statement as a command. -/
def command : Statement → DbResult Command
  | select s => s.command
  | insert s => s.command
  | update s => s.command
  | delete s => s.command

end Statement

end SqlBuilder
