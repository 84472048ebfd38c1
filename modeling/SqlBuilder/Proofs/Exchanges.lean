import SqlBuilder.Execution

/-! # What exchanges do to a connection

A statement is logged, and the script alone decides what it gives (`Connection.rowsOf`,
`Connection.affectedBy`): earlier statements have no influence on later ones.  So an exchange is
followed by its results and by the statements that it adds to the log (`Connection.logged`). -/

namespace SqlBuilder

/-! ## Sequencing -/

namespace Exchange

variable {ε ε' α β : Type} {x : Exchange ε α} {c c' : Connection}

/-- A value is there at once. -/
@[simp] theorem runOn_pure (a : α) (c : Connection) :
    (pure a : Exchange ε α).runOn c = (.ok a, c) := rfl

/-- A failure is there at once. -/
@[simp] theorem runOn_throw (e : ε) (c : Connection) :
    (throw e : Exchange ε α).runOn c = (.error e, c) := rfl

/-- The dialect is read off the connection. -/
@[simp] theorem runOn_dialect (c : Connection) :
    (dialect : Exchange ε Dialect).runOn c = (.ok c.dialect, c) := rfl

/-- What follows goes on from a success and is left out after a failure. -/
theorem runOn_bind (x : Exchange ε α) (f : α → Exchange ε β) (c : Connection) :
    (x >>= f).runOn c = match x.runOn c with
      | (.ok a, c') => (f a).runOn c'
      | (.error e, c') => (.error e, c') := by
  unfold runOn ExceptT.run StateT.run
  simp only [bind, ExceptT.bind, ExceptT.mk, StateT.bind]
  cases x c with
  | mk result next => cases result <;> rfl

/-- What follows a success goes on from there. -/
theorem runOn_bind_of_ok {a : α} (h : x.runOn c = (.ok a, c')) (f : α → Exchange ε β) :
    (x >>= f).runOn c = (f a).runOn c' := by rw [runOn_bind, h]

/-- What follows a failure is left out. -/
theorem runOn_bind_of_error {e : ε} (h : x.runOn c = (.error e, c')) (f : α → Exchange ε β) :
    (x >>= f).runOn c = (.error e, c') := by rw [runOn_bind, h]

/-- A change of failures leaves the connection alone. -/
theorem runOn_mapError {r : Except ε α} (h : x.runOn c = (r, c')) (f : ε → ε') :
    (x.mapError f).runOn c = (r.mapError f, c') := by
  have hmap : (x.mapError f).runOn c = ((x.runOn c).1.mapError f, (x.runOn c).2) := rfl
  rw [hmap, h]

/-- What follows a result that needs no connection. -/
theorem runOn_ofResult_bind (r : Except ε α) (f : α → Exchange ε β) (c : Connection) :
    (ofResult r >>= f).runOn c = match r with
      | .ok a => (f a).runOn c
      | .error e => (.error e, c) := by
  rw [runOn_bind, runOn_ofResult]
  cases r <;> rfl

/-- What follows the dialect of the connection. -/
theorem runOn_dialect_bind (f : Dialect → Exchange ε β) (c : Connection) :
    (dialect >>= f).runOn c = (f c.dialect).runOn c := runOn_bind_of_ok rfl f

end Exchange

/-! ## Statements on a connection -/

namespace Connection

/-- **The connection after some more statements.** -/
def logged (c : Connection) (sqls : List String) : Connection := { c with log := c.log ++ sqls }

/-- No statements change nothing. -/
@[simp] theorem logged_nil (c : Connection) : c.logged [] = c := by
  simp [logged]

/-- Statements add up. -/
@[simp] theorem logged_logged (c : Connection) (sqls sqls' : List String) :
    (c.logged sqls).logged sqls' = c.logged (sqls ++ sqls') := by
  simp [logged]

/-- Statements do not change the dialect. -/
@[simp] theorem dialect_logged (c : Connection) (sqls : List String) :
    (c.logged sqls).dialect = c.dialect := rfl

/-- **The rows that the script gives for a query**, if it does not fail. -/
def rowsOf (c : Connection) (sql : String) : DbResult (List Record) :=
  match c.failures.find sql with
  | some message => .error (.query message)
  | none => .ok ((c.results.find sql).getD [])

/-- **The number of rows that the script says a statement affects**, if it does not fail. -/
def affectedBy (c : Connection) (sql : String) : DbResult UInt64 :=
  match c.failures.find sql with
  | some message => .error (.query message)
  | none => .ok ((c.affected.find sql).getD 0)

/-- Statements do not change what others give. -/
@[simp] theorem rowsOf_logged (c : Connection) (sqls : List String) (sql : String) :
    (c.logged sqls).rowsOf sql = c.rowsOf sql := rfl

/-- Statements do not change what others affect. -/
@[simp] theorem affectedBy_logged (c : Connection) (sqls : List String) (sql : String) :
    (c.logged sqls).affectedBy sql = c.affectedBy sql := rfl

/-- A statement that is sent is logged and may fail. -/
theorem runOn_send (sql : String) (c : Connection) :
    (send sql).runOn c = (match c.failures.find sql with
      | some message => .error (.query message)
      | none => .ok (), c.logged [sql]) := by
  have hsend : (send sql).runOn c = (match c.failures.find sql with
      | some message => (throw (DbError.query message) : DbExchange Unit)
      | none => pure ()).runOn (c.logged [sql]) := rfl
  rw [hsend]
  cases c.failures.find sql <;> rfl

/-- **A command is logged and affects rows as the script says.** -/
theorem runOn_execute (command : Command) (c : Connection) :
    (execute command).runOn c = (c.affectedBy command.sql, c.logged [command.sql]) := by
  have hsend := runOn_send command.sql c
  rw [affectedBy]
  cases hfailure : c.failures.find command.sql with
  | some message =>
    rw [hfailure] at hsend
    exact Exchange.runOn_bind_of_error hsend _
  | none =>
    rw [hfailure] at hsend
    exact Exchange.runOn_bind_of_ok hsend _

/-- **A query is logged and has the rows of the script.** -/
theorem runOn_openReader (command : Command) (c : Connection) :
    (openReader command).runOn c
      = ((c.rowsOf command.sql).map Reader.ofRows, c.logged [command.sql]) := by
  have hsend := runOn_send command.sql c
  rw [rowsOf]
  cases hfailure : c.failures.find command.sql with
  | some message =>
    rw [hfailure] at hsend
    exact Exchange.runOn_bind_of_error (Exchange.runOn_bind_of_error hsend _) _
  | none =>
    rw [hfailure] at hsend
    exact Exchange.runOn_bind_of_ok (Exchange.runOn_bind_of_ok hsend _) _

end Connection

/-! ## What is sent -/

/-- **Whether all statements that an exchange sends have a property.** -/
def Exchange.SendsOnly {ε α : Type} (x : Exchange ε α) (P : String → Prop) (c : Connection) :
    Prop :=
  ∃ sqls, (x.runOn c).2 = c.logged sqls ∧ ∀ sql ∈ sqls, P sql

namespace Exchange.SendsOnly

variable {ε ε' α β : Type} {x : Exchange ε α} {P : String → Prop} {c : Connection}

/-- A run that is known sends the statements that it logs. -/
theorem of_runOn {r : Except ε α} {sqls : List String} (h : x.runOn c = (r, c.logged sqls))
    (hsqls : ∀ sql ∈ sqls, P sql) : x.SendsOnly P c :=
  ⟨sqls, congrArg Prod.snd h, hsqls⟩

/-- A run that leaves the connection alone sends nothing. -/
theorem of_runOn_self {r : Except ε α} (h : x.runOn c = (r, c)) : x.SendsOnly P c :=
  of_runOn (h.trans (by rw [Connection.logged_nil])) (by simp)

/-- Statements with a narrower property have a wider one. -/
theorem mono {Q : String → Prop} (hx : x.SendsOnly P c) (hPQ : ∀ sql, P sql → Q sql) :
    x.SendsOnly Q c := by
  obtain ⟨sqls, hlogged, hsqls⟩ := hx
  exact ⟨sqls, hlogged, fun sql hsql => hPQ sql (hsqls sql hsql)⟩

/-- An exchange may read the dialect of the connection first. -/
theorem dialect_bind {f : Dialect → Exchange ε α} (hf : (f c.dialect).SendsOnly P c) :
    (Exchange.dialect >>= f).SendsOnly P c := by
  rw [SendsOnly, runOn_dialect_bind]
  exact hf

/-- **A sequence sends what its parts send.** -/
theorem bind {f : α → Exchange ε β} (hx : x.SendsOnly P c)
    (hf : ∀ a sqls, x.runOn c = (.ok a, c.logged sqls) → (f a).SendsOnly P (c.logged sqls)) :
    (x >>= f).SendsOnly P c := by
  obtain ⟨sqls, hlogged, hsqls⟩ := hx
  rcases hrun : x.runOn c with ⟨result, c'⟩
  rw [hrun] at hlogged
  dsimp only at hlogged
  subst hlogged
  cases result with
  | error e => exact of_runOn (runOn_bind_of_error hrun f) hsqls
  | ok a =>
    obtain ⟨sqls', hlogged', hsqls'⟩ := hf a sqls hrun
    refine ⟨sqls ++ sqls', ?_, ?_⟩
    · rw [runOn_bind_of_ok hrun, hlogged', Connection.logged_logged]
    · intro sql hsql
      rcases List.mem_append.1 hsql with h | h
      · exact hsqls sql h
      · exact hsqls' sql h

/-- A change of failures changes nothing about what is sent. -/
theorem mapError (hx : x.SendsOnly P c) (f : ε → ε') : (x.mapError f).SendsOnly P c := hx

end Exchange.SendsOnly

/-! ## Reading rows -/

/-- **The rows of a result are read one after the other** up to the first that cannot be turned into
something else. -/
theorem RowStream.collect_ofRows {α : Type} (hydrate : Record → DbResult α) (rows : List Record) :
    (RowStream.mk (Reader.ofRows rows)).collect hydrate = rows.mapM hydrate := by
  -- Rows that were read before leave a current row and a number behind.
  have hrows : ∀ (rows : List Record) (record : Option Record) (rowsRead : Nat),
      (takeItems hydrate ⟨⟨some (.ofRows rows), record, rowsRead⟩⟩ (rows.length + 2)).mapM id
        = rows.mapM hydrate := by
    intro rows
    induction rows with
    | nil =>
      intro record rowsRead
      rfl
    | cons row rest ih =>
      intro record rowsRead
      have hread : (Reader.mk (some (.ofRows (row :: rest))) record rowsRead).read
          = (.ok true, ⟨some (.ofRows rest), some row, rowsRead + 1⟩) := rfl
      rw [List.length_cons, Nat.add_right_comm, takeItems, next, hread, List.mapM_cons]
      dsimp only [Option.getD]
      cases hydrate row with
      | error e => rfl
      | ok a =>
        dsimp only
        rw [List.mapM_cons, ih (some row) (rowsRead + 1)]
        rfl
  exact hrows rows none 0

/-- **The identity columns that the script names** in the rows of a query. -/
def Connection.identityNames (c : Connection) (sql : String) : DbResult (List String) := do
  let rows ← c.rowsOf sql
  rows.mapM fun row => (row.value "COLUMN_NAME").bind Value.toText

/-- The identity columns of a table are asked for once. -/
theorem runOn_identityColumns (t : TableRef) (c : Connection) :
    (identityColumns t).runOn c
      = (c.identityNames (identityQuery t), c.logged [identityQuery t]) := by
  have hreader := Connection.runOn_openReader (.ofText (identityQuery t)) c
  rw [identityColumns, Connection.identityNames]
  cases hrows : c.rowsOf (identityQuery t) with
  | error e =>
    rw [Command.sql_ofText, hrows] at hreader
    exact Exchange.runOn_bind_of_error hreader _
  | ok rows =>
    rw [Command.sql_ofText, hrows] at hreader
    rw [Exchange.runOn_bind_of_ok hreader, Exchange.runOn_ofResult, RowStream.collect_ofRows]
    rfl

/-! ## Executing statements -/

/-- **What becomes of a statement that is executed**: it is logged and affects rows as the script
says.  Without a text nothing is sent. -/
def Connection.executed (c : Connection) (statement : DbResult String) :
    DbResult UInt64 × Connection :=
  match statement with
  | .ok sql => (c.affectedBy sql, c.logged [sql])
  | .error e => (.error e, c)

/-- The text of a statement decides what becomes of it. -/
theorem Connection.runOn_ofResult_execute (statement : DbResult String) (c : Connection) :
    (Exchange.ofResult (statement.map Command.ofText) >>= execute).runOn c
      = c.executed statement := by
  rw [Exchange.runOn_ofResult_bind]
  cases statement with
  | error e => rfl
  | ok sql => exact runOn_execute (.ofText sql) c

/-- A statement that is executed is sent, and nothing else is. -/
theorem Connection.executed_eq (c : Connection) (statement : DbResult String) :
    ∃ sqls, (c.executed statement).2 = c.logged sqls ∧ ∀ sql ∈ sqls, statement = .ok sql := by
  cases statement with
  | error e => exact ⟨[], (c.logged_nil).symm, by simp⟩
  | ok sql => exact ⟨[sql], rfl, by simp⟩

/-- An INSERT is sent if it has a text. -/
theorem Insert.runOn_execute (s : Insert) (c : Connection) :
    s.execute.runOn c = c.executed (s.statement false) :=
  Connection.runOn_ofResult_execute _ c

/-- A DELETE is sent if it has a text. -/
theorem Delete.runOn_execute (s : Delete) (c : Connection) :
    s.execute.runOn c = c.executed (s.statement false) :=
  Connection.runOn_ofResult_execute _ c

/-- An UPDATE is sent if it has a text, in the dialects without a query for identity columns. -/
theorem Update.runOn_execute {s : Update} (h : s.dialect ≠ .msSql) (c : Connection) :
    s.execute.runOn c = c.executed (s.statement false) := by
  have hcommand : s.commandOn = Exchange.ofResult s.command := by
    unfold commandOn
    cases hdialect : s.dialect
    case msSql => exact absurd hdialect h
    all_goals rfl
  rw [execute, hcommand]
  exact Connection.runOn_ofResult_execute _ c

/-- An UPDATE that has no table or assigns nothing is not sent, and no query either. -/
theorem Update.runOn_execute_of_error {s : Update}
    (hoffset : s.dialect.checkOffset s.data.scope = .ok ()) {e : DbError}
    (ht : s.data.checkedTarget = .error e) (c : Connection) :
    s.execute.runOn c = (.error e, c) := by
  by_cases hdialect : s.dialect = .msSql
  · rw [execute, commandOn, hdialect]
    dsimp only
    rw [ht]
    rfl
  · have hstatement : s.statement false = .error e := by
      rw [statement, UpdateData.render, hoffset, ht]
      rfl
    rw [runOn_execute hdialect, hstatement]
    rfl

/-- **An UPDATE that assigns something in a table asks for identity columns first** where these must
not be assigned, and the command is what is left of it if anything is. -/
theorem Update.runOn_commandOn_msSql {s : Update} (hdialect : s.dialect = .msSql) {t : TableRef}
    (ht : s.data.checkedTarget = .ok t) (c : Connection) :
    s.commandOn.runOn c
      = ((c.identityNames (identityQuery t)).bind fun names =>
          (if (s.data.withoutIdentity names).assignments.isEmpty then refuse .onlyIdentityColumns
          else (s.data.withoutIdentity names).render .msSql).map Command.ofText,
        c.logged [identityQuery t]) := by
  have hnames := runOn_identityColumns t c
  rw [commandOn, hdialect]
  dsimp only
  rw [Exchange.runOn_ofResult_bind, ht]
  dsimp only
  cases hresult : c.identityNames (identityQuery t) with
  | error e =>
    rw [hresult] at hnames
    rw [Exchange.runOn_bind_of_error hnames]
    rfl
  | ok names =>
    rw [hresult] at hnames
    rw [Exchange.runOn_bind_of_ok hnames]
    dsimp only [Except.bind]
    by_cases hempty : (s.data.withoutIdentity names).assignments.isEmpty
    · rw [if_pos hempty, if_pos hempty]
      rfl
    · rw [if_neg hempty, if_neg hempty, Exchange.runOn_ofResult_bind]
      cases (s.data.withoutIdentity names).render .msSql <;> rfl

/-- What is left of such an UPDATE is sent if anything is. -/
theorem Update.runOn_execute_msSql {s : Update} (hdialect : s.dialect = .msSql) {t : TableRef}
    (ht : s.data.checkedTarget = .ok t) (c : Connection) :
    s.execute.runOn c = match c.identityNames (identityQuery t) with
      | .error e => (.error e, c.logged [identityQuery t])
      | .ok names =>
        (c.logged [identityQuery t]).executed
          (if (s.data.withoutIdentity names).assignments.isEmpty then refuse .onlyIdentityColumns
          else (s.data.withoutIdentity names).render .msSql) := by
  rw [execute, Exchange.runOn_bind, runOn_commandOn_msSql hdialect ht]
  cases c.identityNames (identityQuery t) with
  | error e => rfl
  | ok names =>
    dsimp only [Except.bind]
    cases (if (s.data.withoutIdentity names).assignments.isEmpty then refuse .onlyIdentityColumns
      else (s.data.withoutIdentity names).render .msSql) with
    | error e => rfl
    | ok sql => exact Connection.runOn_execute (.ofText sql) _

end SqlBuilder
