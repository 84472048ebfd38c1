import SqlBuilder.Connection
import SqlBuilder.Delete
import SqlBuilder.Insert
import SqlBuilder.Select.Builder
import SqlBuilder.Update

/-! # Executing statements

Statements are rendered and sent to a connection.  In one dialect an identity column must not be
assigned: before an UPDATE is rendered for a connection, a query asks which columns of the table are
identity columns, and their assignments are left out. -/

namespace SqlBuilder

/-- Send the SELECT and get a reader of its rows. -/
def Select.open (s : Select) : DbExchange Reader := do
  Connection.openReader (← Exchange.ofResult s.command)

/-- Send the SELECT and get its rows, turned into something else. -/
def Select.fetch {α : Type} (s : Select) (hydrate : Record → DbResult α) : DbExchange (List α) := do
  let reader ← s.open
  Exchange.ofResult ((RowStream.mk reader).collect hydrate)

/-- Send the INSERT and get the number of affected rows. -/
def Insert.execute (s : Insert) : DbExchange UInt64 := do
  Connection.execute (← Exchange.ofResult s.command)

/-- Send the DELETE and get the number of affected rows. -/
def Delete.execute (s : Delete) : DbExchange UInt64 := do
  Connection.execute (← Exchange.ofResult s.command)

/-! ## Identity columns -/

/-- The segments of a table's name from the last to the first, without quotes. -/
def nameSegments (t : TableRef) : List String := ((Text.split '.' t.name).map unquoted).reverse

/-- The query for the identity columns of a table. -/
def identityQuery (t : TableRef) : String :=
  let segments := nameSegments t
  let name := Dialect.msSql.textLiteral ((segments.head?).getD "")
  let schema := match segments.tail.head? with
    | some s => " AND [TABLE_SCHEMA] = " ++ Dialect.msSql.textLiteral s
    | none => ""
  "SELECT [COLUMN_NAME] FROM [INFORMATION_SCHEMA].[COLUMNS] WHERE [TABLE_NAME] = " ++ name ++ schema
    ++ " AND COLUMNPROPERTY(OBJECT_ID(QUOTENAME([TABLE_SCHEMA]) + '.' + QUOTENAME([TABLE_NAME])), "
    ++ "[COLUMN_NAME], 'IsIdentity') = 1"

/-- The identity columns of a table, as the connection knows them. -/
def identityColumns (t : TableRef) : DbExchange (List String) := do
  let reader ← Connection.openReader (.ofText (identityQuery t))
  Exchange.ofResult ((RowStream.mk reader).collect fun r =>
    (r.value "COLUMN_NAME").bind Value.toText)

/-- Whether an assigned column is one of the identity columns: its last segment, without quotes, has
the name of one up to case. -/
def isIdentity (identity : List String) (column : String) : Bool :=
  identity.any fun i => Text.equalIgnoringCase i (unquoted (Text.lastPiece '.' column))

/-- The UPDATE without the assignments of identity columns. -/
def UpdateData.withoutIdentity (data : UpdateData) (identity : List String) : UpdateData :=
  { data with assignments := data.assignments.filter fun a => !isIdentity identity a.1 }

namespace Update

/-- The UPDATE as a command for a connection. -/
def commandOn (s : Update) : DbExchange Command := do
  match s.dialect with
  | .msSql =>
    let t ← Exchange.ofResult s.data.checkedTarget
    let data := s.data.withoutIdentity (← identityColumns t)
    if data.assignments.isEmpty then throw (.invalidArgument .onlyIdentityColumns)
    return .ofText (← Exchange.ofResult (data.render s.dialect))
  | _ => Exchange.ofResult s.command

/-- Send the UPDATE and get the number of affected rows. -/
def execute (s : Update) : DbExchange UInt64 := do
  Connection.execute (← s.commandOn)

end Update

end SqlBuilder
