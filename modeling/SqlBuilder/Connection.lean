import SqlBuilder.Command
import SqlBuilder.Config
import SqlBuilder.Reader

/-! # Connections

A connection here answers from a script: canned rows, affected counts and failures by statement.
It logs every statement it is sent, the failing ones included, and knows whether a transaction is
open.  An `Exchange` is a computation that talks to a connection and may fail; what it logged before
a failure stays logged. -/

namespace SqlBuilder

/-- A connection that answers from a script. -/
structure Connection where
  /-- The data source that the connection belongs to. -/
  source : DataSource
  /-- The rows of queries. -/
  results : Entries String (List Record)
  /-- The numbers of rows that statements affect. -/
  affected : Entries String UInt64
  /-- The messages of statements that fail. -/
  failures : Entries String String
  /-- Every statement that was sent, in order. -/
  log : List String
  /-- Whether a transaction is open. -/
  inTransaction : Bool

namespace Connection

/-- A connection to a data source, with its canned results. -/
def ofSource (s : DataSource) : Connection :=
  ⟨s, s.results.map fun r => (r.1, r.2.map Record.ofJson), [], [], [], false⟩

/-- A connection in a dialect, with an empty script. -/
def ofDialect (d : Dialect) : Connection := ofSource (.new "mock" d)

/-- The dialect of the connection. -/
def dialect (c : Connection) : Dialect := c.source.dialect

/-- The connection that answers a query with rows. -/
def withResult (c : Connection) (sql : String) (rows : List Record) : Connection :=
  { c with results := c.results.put sql rows }

/-- The connection that answers a statement with an affected count. -/
def withAffected (c : Connection) (sql : String) (count : UInt64) : Connection :=
  { c with affected := c.affected.put sql count }

/-- The connection on which a statement fails. -/
def failOn (c : Connection) (sql message : String) : Connection :=
  { c with failures := c.failures.put sql message }

/-- The connection with an empty log. -/
def clearLog (c : Connection) : Connection := { c with log := [] }

end Connection

/-- A computation that talks to a connection and may fail with a cause in `ε`. -/
abbrev Exchange (ε α : Type) : Type := ExceptT ε (StateM Connection) α

namespace Exchange

variable {ε α : Type}

/-- The outcome of a computation on a connection, and the connection after it. -/
def runOn (x : Exchange ε α) (c : Connection) : Except ε α × Connection := (ExceptT.run x).run c

/-- A result that needs no connection. -/
def ofResult (r : Except ε α) : Exchange ε α := ExceptT.mk (pure r)

/-- The dialect of the connection. -/
def dialect : Exchange ε Dialect := return (← get).dialect

/-- A computation whose failures are put into another type. -/
def mapError {ε' : Type} (f : ε → ε') (x : Exchange ε α) : Exchange ε' α :=
  ExceptT.mk ((ExceptT.run x).map fun r => r.mapError f)

@[simp] theorem runOn_ofResult (r : Except ε α) (c : Connection) :
    (ofResult r).runOn c = (r, c) := rfl

end Exchange

/-- A computation that talks to a connection and may fail with a `DbError`. -/
abbrev DbExchange (α : Type) : Type := Exchange DbError α

namespace Connection

/-- Send a statement: it is logged, and fails if the script says so. -/
def send (sql : String) : DbExchange Unit := do
  modify fun c => { c with log := c.log ++ [sql] }
  match (← get).failures.find sql with
  | some message => throw (.query message)
  | none => return

/-- Execute a command and get the number of affected rows, zero if the script has none. -/
def execute (command : Command) : DbExchange UInt64 := do
  send command.sql
  return ((← get).affected.find command.sql).getD 0

/-- Send a query and get its rows, none if the script has none. -/
def query (command : Command) : DbExchange RowSource := do
  send command.sql
  return .ofRows (((← get).results.find command.sql).getD [])

/-- Send a query and get a reader of its rows. -/
def openReader (command : Command) : DbExchange Reader := do
  return .ofSource (← query command)

/-- Open a transaction. -/
def beginTransaction : DbExchange Unit := do
  send "BEGIN"
  if (← get).inTransaction then throw (.query "a transaction is already active")
  modify fun c => { c with inTransaction := true }

/-- End the open transaction with a statement. -/
def endTransaction (sql : String) : DbExchange Unit := do
  send sql
  if !(← get).inTransaction then throw (.query "no active transaction")
  modify fun c => { c with inTransaction := false }

/-- Keep what the transaction did. -/
def commit : DbExchange Unit := endTransaction "COMMIT"

/-- Undo what the transaction did. -/
def rollback : DbExchange Unit := endTransaction "ROLLBACK"

end Connection

end SqlBuilder
