import SqlBuilder.Connection
import SqlBuilder.Identifier
import SqlBuilder.Text.DecimalDigit

/-! # Table locks

A lock names a table and hints: modes of locking and what to do when the table is locked already.
Each dialect lists its modes; a hint that is no mode and no wait instruction is ignored.  Hints are
compared without regard to case, and case folding pairs two letters outside ASCII with `K` and `S`;
what is kept is the hint itself in upper-case ASCII letters. -/

namespace SqlBuilder

/-! ## The locks of each dialect -/

/-- What a dialect can do when a table is locked already. -/
inductive WaitForm where
  /-- Nothing can be said. -/
  | never
  /-- `NOWAIT`. -/
  | noWait
  /-- `NOWAIT`, or `WAIT` and a number of seconds. -/
  | noWaitOrSeconds
deriving Repr, DecidableEq

/-- The wait instructions as a pattern of alternatives. -/
def WaitForm.pattern : WaitForm → Option String
  | .never => none
  | .noWait => some "NOWAIT"
  | .noWaitOrSeconds => some "NOWAIT|WAIT \\d+"

/-- What locks a dialect has. -/
structure LockSyntax where
  /-- The modes. -/
  modes : List String
  /-- The wait instructions. -/
  wait : WaitForm
  /-- The modes of a lock without mode hints. -/
  defaultModes : List String
  /-- Whether a lock may have several modes. -/
  severalModes : Bool
deriving Repr, DecidableEq

/-- The modes as a pattern of alternatives. -/
def LockSyntax.modePattern (s : LockSyntax) : String := "|".intercalate s.modes

namespace Dialect

/-- The locks of the dialect, if it has any. -/
def lockSyntax : Dialect → Option LockSyntax
  | .standard | .postgreSql => some
    ⟨["ACCESS SHARE", "ROW SHARE", "ROW EXCLUSIVE", "SHARE UPDATE EXCLUSIVE", "SHARE",
      "SHARE ROW EXCLUSIVE", "EXCLUSIVE", "ACCESS EXCLUSIVE"], .noWait, ["EXCLUSIVE"], false⟩
  | .db2 => some ⟨["SHARE", "EXCLUSIVE"], .never, ["EXCLUSIVE"], false⟩
  | .firebird => some ⟨["FOR UPDATE"], .never, [], false⟩
  | .mariaDb => some
    ⟨["READ", "READ LOCAL", "WRITE", "LOW_PRIORITY WRITE"], .noWaitOrSeconds, ["WRITE"], false⟩
  | .mySql => some
    ⟨["READ", "READ LOCAL", "WRITE", "LOW_PRIORITY WRITE"], .never, ["WRITE"], false⟩
  | .msSql => some
    ⟨["TABLOCK", "TABLOCKX", "HOLDLOCK", "UPDLOCK", "XLOCK", "PAGLOCK", "ROWLOCK", "SERIALIZABLE",
      "REPEATABLEREAD", "READCOMMITTED", "READCOMMITTEDLOCK", "READUNCOMMITTED", "READPAST",
      "NOLOCK"], .noWait, ["TABLOCKX", "HOLDLOCK"], true⟩
  | .oracle => some
    ⟨["ROW SHARE", "ROW EXCLUSIVE", "SHARE UPDATE", "SHARE", "SHARE ROW EXCLUSIVE", "EXCLUSIVE"],
      .noWaitOrSeconds, ["EXCLUSIVE"], false⟩
  | .sqlite => none

/-- An optional word after a blank. -/
def afterBlank (word : Option String) : String :=
  match word with
  | some w => " " ++ w
  | none => ""

/-- The clause that locks a quoted table. -/
def lockClause (d : Dialect) (table : String) (modes : List String) (wait : Option String) :
    String :=
  match d with
  | .mariaDb | .mySql => table ++ " " ++ " ".intercalate modes ++ afterBlank wait
  | .msSql =>
    "SELECT * FROM " ++ table ++ " WITH (" ++ ", ".intercalate (modes ++ wait.toList) ++ ")"
  | .firebird =>
    "SELECT * FROM " ++ table ++ String.join (modes.map fun m => " " ++ m) ++ " WITH LOCK"
  | _ => "LOCK TABLE " ++ table ++ " IN " ++ " ".intercalate modes ++ " MODE" ++ afterBlank wait

/-- The statements for some lock clauses.  Where a second statement would undo the first, all
clauses go into one. -/
def lockStatements (d : Dialect) (clauses : List String) : List String :=
  match d with
  | .mariaDb | .mySql =>
    if clauses.isEmpty then [] else ["LOCK TABLES " ++ ", ".intercalate clauses]
  | _ => clauses

/-- The statements that release all locks, apart from the end of the transaction. -/
def unlockStatements : Dialect → List String
  | .mariaDb | .mySql => ["UNLOCK TABLES"]
  | _ => []

end Dialect

/-! ## Hints -/

/-- A hint with single blanks and upper-case ASCII letters. -/
def normalizedHint (hint : String) : String := Text.upper (Text.singleSpaced hint)

/-- The upper-case ASCII letter to which a character is equal up to case, or the character itself.
Besides the ASCII letters, the Kelvin sign is a `K` and the long s is an `S`. -/
def foldedLetter (c : Char) : Char :=
  if c = '\u212a' then 'K' else if c = '\u017f' then 'S' else c.toUpper

/-- Whether a hint is a word up to case. -/
def isWord (hint : List Char) (word : String) : Bool := hint.map foldedLetter == word.toList

/-- Whether a hint is a wait instruction of the form. -/
def WaitForm.accepts (form : WaitForm) (hint : String) : Bool :=
  let cs := hint.toList
  match form with
  | .never => false
  | .noWait => isWord cs "NOWAIT"
  | .noWaitOrSeconds =>
    let seconds := cs.drop 5
    isWord cs "NOWAIT"
      || (isWord (cs.take 5) "WAIT " && !seconds.isEmpty && seconds.all Text.isDecimalDigit)

/-- Whether a hint is a mode. -/
def LockSyntax.acceptsMode (s : LockSyntax) (hint : String) : Bool :=
  s.modes.any fun mode => isWord hint.toList mode

/-- The modes and the wait instruction that a list of hints gives. -/
structure LockHints where
  /-- The modes in order. -/
  modes : List String
  /-- The wait instruction. -/
  wait : Option String
deriving Repr, DecidableEq

/-- The hints after one more.  The last wait instruction counts; a mode counts if it is the first or
the dialect combines modes, and counts once. -/
def LockHints.add (s : LockSyntax) (h : LockHints) (hint : String) : LockHints :=
  if s.wait.accepts hint then ⟨h.modes, some hint⟩
  else if s.acceptsMode hint && (s.severalModes || h.modes.isEmpty) then
    if h.modes.contains hint then h else ⟨h.modes ++ [hint], h.wait⟩
  else h

/-- What a list of hints gives, with the default modes if there is no mode among them. -/
def LockHints.ofList (s : LockSyntax) (hints : List String) : LockHints :=
  let given := (hints.map normalizedHint).foldl (LockHints.add s) ⟨[], none⟩
  if given.modes.isEmpty then ⟨s.defaultModes, given.wait⟩ else given

/-! ## Building locks -/

/-- A lock of a table. -/
structure TableLock where
  /-- The name of the table. -/
  table : String
  /-- The modes. -/
  modes : List String
  /-- The wait instruction. -/
  wait : Option String
  /-- The clause that locks the table. -/
  clause : String
deriving Repr, DecidableEq

/-- Locks under construction. -/
structure LockBuilder where
  /-- The dialect in which the locks are written. -/
  dialect : Dialect
  /-- The locks of the dialect. -/
  syntaxRules : LockSyntax
  /-- The locks by table, in the order in which the tables were first added. -/
  locks : Entries String TableLock
deriving Repr, DecidableEq

namespace LockBuilder

/-- No locks, in a dialect that has some. -/
def new (d : Dialect) : DbResult LockBuilder :=
  match d.lockSyntax with
  | some s => .ok ⟨d, s, []⟩
  | none => .error (.unsupported d .tableLocks)

/-- The lock of a table with some hints. -/
def lockOf (b : LockBuilder) (table : String) (hints : List String) : TableLock :=
  let h := LockHints.ofList b.syntaxRules hints
  ⟨table, h.modes, h.wait, b.dialect.lockClause (b.dialect.identifier table) h.modes h.wait⟩

/-- Lock a table; an earlier lock of the table is replaced. -/
def add (b : LockBuilder) (table : String) (hints : List String) : LockBuilder :=
  { b with locks := b.locks.put table (b.lockOf table hints) }

/-- Forget the locks. -/
def reset (b : LockBuilder) : LockBuilder := { b with locks := [] }

/-- The locks in order. -/
def lockList (b : LockBuilder) : List TableLock := b.locks.map Prod.snd

/-- The statements that take the locks. -/
def commands (b : LockBuilder) : List String :=
  b.dialect.lockStatements (b.lockList.map TableLock.clause)

/-- Send statements in order, up to the first that fails. -/
def sendAll : List String → DbExchange Unit
  | [] => return
  | sql :: rest => do
    let _ ← Connection.execute (.ofText sql)
    sendAll rest

/-- Open a transaction and take the locks. -/
def acquire (b : LockBuilder) : DbExchange Unit := do
  Connection.beginTransaction
  sendAll b.commands

/-- Release the locks and end the transaction, by undoing it if the method says so. -/
def release (b : LockBuilder) (method : String) : DbExchange Unit := do
  sendAll b.dialect.unlockStatements
  if Text.equalIgnoringCase (Text.trim method) "ROLLBACK" then Connection.rollback
  else Connection.commit

end LockBuilder

end SqlBuilder
