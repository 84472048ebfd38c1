import SqlBuilder.Dialect

/-! # Errors of statements and connections

Every failure is a cause; its wording is in one function, `DbError.message`. -/

namespace SqlBuilder

/-- Why an argument or a statement built from arguments is refused. -/
inductive ArgumentFault where
  /-- The text names no dialect. -/
  | unknownDialect (text : String)
  /-- The text is no comparison operator. -/
  | unknownOperator (text : String)
  /-- The word is no connector. -/
  | unknownConnector (word : String)
  /-- The text is no kind of join. -/
  | unknownJoin (text : String)
  /-- The word is no sort order. -/
  | unknownOrder (word : String)
  /-- The text is no set operator. -/
  | unknownSetOperator (text : String)
  /-- A predicate group is closed that was not opened. -/
  | unmatchedClose
  /-- A predicate group is closed right after it was opened. -/
  | emptyGroup
  /-- So many predicate groups are still open. -/
  | unclosedGroups (count : Nat)
  /-- A join condition comes before the first join. -/
  | conditionWithoutJoin
  /-- A shared join column comes before the first join. -/
  | sharedColumnWithoutJoin
  /-- An INSERT has no table. -/
  | insertWithoutTarget
  /-- An INSERT has no row or no column. -/
  | insertWithoutValues
  /-- An UPDATE has no table. -/
  | updateWithoutTarget
  /-- An UPDATE assigns nothing. -/
  | updateWithoutAssignments
  /-- An UPDATE assigns nothing but identity columns. -/
  | onlyIdentityColumns
  /-- A DELETE has no table. -/
  | deleteWithoutTarget
  /-- A value of the kind `found` cannot be read as `expected`. -/
  | conversion (found expected : String)
deriving Repr, DecidableEq

/-- The wording of a refusal. -/
def ArgumentFault.message : ArgumentFault → String
  | .unknownDialect text => "unknown dialect '" ++ text ++ "'"
  | .unknownOperator text => "unknown operator '" ++ text ++ "'"
  | .unknownConnector word => "unknown connector '" ++ word ++ "'"
  | .unknownJoin text => "unknown join type '" ++ text ++ "'"
  | .unknownOrder word => "unknown sort order '" ++ word ++ "'"
  | .unknownSetOperator text => "unknown combine operator '" ++ text ++ "'"
  | .unmatchedClose => "closing parenthesis without a matching opening one"
  | .emptyGroup => "empty parenthesized predicate group"
  | .unclosedGroups count => toString count ++ " unclosed parenthesis in predicate list"
  | .conditionWithoutJoin => "ON condition without a preceding join"
  | .sharedColumnWithoutJoin => "USING column without a preceding join"
  | .insertWithoutTarget => "INSERT without target table"
  | .insertWithoutValues => "INSERT without values"
  | .updateWithoutTarget => "UPDATE without target table"
  | .updateWithoutAssignments => "UPDATE without assignments"
  | .onlyIdentityColumns => "UPDATE assigns only identity columns"
  | .deleteWithoutTarget => "DELETE without target table"
  | .conversion found expected => "cannot convert " ++ found ++ " value to " ++ expected

/-- What only some dialects can do. -/
inductive Feature where
  /-- Skipping rows in an UPDATE or DELETE. -/
  | offsetInChange
  /-- Locking tables. -/
  | tableLocks
deriving Repr, DecidableEq

/-- The wording of a feature. -/
def Feature.name : Feature → String
  | .offsetInChange => "OFFSET in DELETE/UPDATE"
  | .tableLocks => "table locks"

/-- Why a configuration is refused or gives no data source. -/
inductive ConfigFault where
  /-- The default data source is not among the data sources. -/
  | undefinedDefault (name : String)
  /-- There is no data source of the name. -/
  | unknownSource (name : String)
  /-- No default is named, and there is not exactly one data source. -/
  | noDefault
deriving Repr, DecidableEq

/-- The wording of a configuration fault. -/
def ConfigFault.message : ConfigFault → String
  | .undefinedDefault name => "default data source '" ++ name ++ "' is not defined"
  | .unknownSource name => "unknown data source '" ++ name ++ "'"
  | .noDefault => "no default data source configured"

/-- A failure of a statement, a connection or a configuration. -/
inductive DbError where
  /-- A statement failed on the connection. -/
  | query (message : String)
  /-- No connection could be made. -/
  | connection (message : String)
  /-- An argument or a statement is refused. -/
  | invalidArgument (fault : ArgumentFault)
  /-- A record has no column of the name. -/
  | noColumn (name : String)
  /-- The dialect cannot do this. -/
  | unsupported (dialect : Dialect) (feature : Feature)
  /-- The configuration does not hold together. -/
  | config (fault : ConfigFault)
  /-- A file cannot be read as text. -/
  | unreadableFile
  /-- A text is not JSON of the expected form. -/
  | invalidJson
deriving Repr, DecidableEq

/-- The wording of a failure. -/
def DbError.message : DbError → String
  | .query message => "Failed to execute SQL statement. Reason: " ++ message
  | .connection message => "Failed to establish connection. Reason: " ++ message
  | .invalidArgument fault => "Invalid argument: " ++ fault.message
  | .noColumn name => "Invalid property: no column named '" ++ name ++ "'"
  | .unsupported dialect feature =>
    "Dialect " ++ dialect.name ++ " does not support " ++ feature.name
  | .config fault => "Configuration error: " ++ fault.message
  | .unreadableFile => "IO error: unreadable file"
  | .invalidJson => "Serialization error: invalid JSON"

/-- A result that may fail with a `DbError`. -/
abbrev DbResult (α : Type) : Type := Except DbError α

/-- Refuse an argument or a statement. -/
def refuse {α : Type} (fault : ArgumentFault) : DbResult α := .error (.invalidArgument fault)

/-- The value that an optional reading found, or a refusal. -/
def orRefuse {α : Type} (found : Option α) (fault : ArgumentFault) : DbResult α :=
  match found with
  | some a => .ok a
  | none => refuse fault

end SqlBuilder
