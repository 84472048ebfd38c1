import SqlBuilder.Text.Blank
import SqlBuilder.Text.Case

/-! # SQL dialects

The nine dialects, their names, and the small facts in which they differ everywhere: how they quote
identifiers, what joins a table to its alias, how they write truth values, and which table a SELECT
without sources reads from. -/

namespace SqlBuilder

/-- A dialect of SQL. -/
inductive Dialect where
  /-- The SQL standard. -/
  | standard
  | db2
  | firebird
  | mariaDb
  | msSql
  | mySql
  | oracle
  | postgreSql
  | sqlite
deriving Repr, DecidableEq, Inhabited

namespace Dialect

/-- All dialects. -/
def all : List Dialect :=
  [.standard, .db2, .firebird, .mariaDb, .msSql, .mySql, .oracle, .postgreSql, .sqlite]

/-- Every dialect is in the list of all. -/
theorem mem_all (d : Dialect) : d ∈ all := by cases d <;> decide

/-- The name of a dialect. -/
def name : Dialect → String
  | .standard => "Standard"
  | .db2 => "DB2"
  | .firebird => "Firebird"
  | .mariaDb => "MariaDB"
  | .msSql => "MsSQL"
  | .mySql => "MySQL"
  | .oracle => "Oracle"
  | .postgreSql => "PostgreSQL"
  | .sqlite => "SQLite"

/-- The lower-case words that name a dialect. -/
def aliases : Dialect → List String
  | .standard => ["standard", "ansi", "sql"]
  | .db2 => ["db2", "ibm_db2"]
  | .firebird => ["firebird", "interbase"]
  | .mariaDb => ["mariadb"]
  | .msSql => ["mssql", "sqlserver", "sqlsrv"]
  | .mySql => ["mysql"]
  | .oracle => ["oracle", "oci"]
  | .postgreSql => ["postgresql", "postgres", "pgsql"]
  | .sqlite => ["sqlite", "sqlite3"]

/-- The dialect that a text names, without regard to letter case and blanks around it. -/
def ofText? (s : String) : Option Dialect :=
  let word := Text.lower (Text.trim s)
  all.find? fun d => d.aliases.contains word

/-! ## Identifier quotes -/

/-- The two characters around a quoted identifier. -/
structure Quotes where
  /-- The character in front. -/
  opening : Char
  /-- The character behind, written twice inside. -/
  closing : Char
deriving Repr, DecidableEq

/-- The quotes that a dialect puts around identifiers. -/
def quotes : Dialect → Quotes
  | .mariaDb | .mySql => ⟨'\x60', '\x60'⟩
  | .msSql => ⟨'[', ']'⟩
  | _ => ⟨'"', '"'⟩

/-- What stands between a table and its alias. -/
def aliasKeyword : Dialect → String
  | .oracle => " "
  | _ => " AS "

/-- The literal of a truth value. -/
def truthLiteral : Dialect → Bool → String
  | .msSql, b | .oracle, b | .db2, b => if b then "1" else "0"
  | _, b => if b then "TRUE" else "FALSE"

/-- The table that a SELECT without sources reads from, if the dialect needs one. -/
def dummyTable : Dialect → Option String
  | .db2 => some "SYSIBM.SYSDUMMY1"
  | .firebird => some "RDB$DATABASE"
  | .oracle => some "dual"
  | _ => none

end Dialect

end SqlBuilder
