import SqlBuilder.Proofs.UniqueChecks

/-! # Updating and deleting objects

An object with a primary key that is present has a row of its own.  Every UPDATE and DELETE that is
sent for the object has the key as its only condition, and an UPDATE assigns other columns only; all
other statements are queries (`Model.only_own_row_is_written`). -/

namespace SqlBuilder.Model

variable {α : Type} {m : Model α} {supplied : Supplied}

/-! ## The key of an object -/

/-- **The row of an object**: the column of a field with the value that the object supplies for it,
if any. -/
def ownRow (pk : Field) (supplied : Supplied) : OwnRow :=
  (pk.column, (Entries.find pk.column supplied).getD .null)

/-- Without primary-key field there is no key. -/
theorem presentKey_of_none (h : m.fields.find? (fun f => f.options.primaryKey) = none)
    (supplied : Supplied) (fault : ValueFault) :
    m.presentKey supplied fault = .error (.noPrimaryKey m.table) := by
  rw [presentKey, primaryKey, h]
  rfl

/-- The key is that of the first primary-key field, and must not be absent. -/
theorem presentKey_of_some {pk : Field}
    (h : m.fields.find? (fun f => f.options.primaryKey) = some pk) (supplied : Supplied)
    (fault : ValueFault) :
    m.presentKey supplied fault = if (ownRow pk supplied).2.isNull then
      .error (.validation pk.column fault) else .ok (ownRow pk supplied) := by
  rw [presentKey, keyValue, primaryKey, h]
  rfl

/-! ## The UPDATE -/

/-- The assignments that are left when identity columns must not be assigned. -/
def assignable (names : List String) (assigned : List (String × Value)) : List (String × Value) :=
  assigned.filter fun v => !isIdentity names v.1

/-- Assignments of identity columns may be left out before or after values are written in SQL. -/
theorem withoutIdentity_written (d : Dialect) (t : TableRef) (scope : RowScope)
    (names : List String) (assigned : List (String × Value)) :
    (UpdateData.mk (some t) (written d assigned) scope).withoutIdentity names
      = ⟨some t, written d (assignable names assigned), scope⟩ := by
  rw [UpdateData.withoutIdentity, written, List.filter_map]
  rfl

section

variable (m : Model α) (c : Connection) {key : OwnRow} (hkey : key.2.isNull = false)
  {assigned : List (String × Value)} (hassigned : assigned ≠ [])
include hkey hassigned

/-- An UPDATE of the row with a key is sent at once, unless there may be identity columns. -/
theorem runOn_change (hdialect : c.dialect ≠ .msSql) :
    (Update.mk c.dialect ⟨some m.tableRef, written c.dialect assigned,
        keyScope c.dialect key.1 key.2 .all⟩).execute.runOn c
      = c.executed (.ok (m.changeText c.dialect key assigned)) := by
  rw [Update.runOn_execute hdialect, Update.statement, m.render_change hkey hassigned]
  rfl

/-- An UPDATE of the row with a key is sent without identity columns if there may be some. -/
theorem runOn_change_msSql (hdialect : c.dialect = .msSql) :
    (Update.mk c.dialect ⟨some m.tableRef, written c.dialect assigned,
        keyScope c.dialect key.1 key.2 .all⟩).execute.runOn c
      = match c.identityNames (identityQuery m.tableRef) with
        | .error e => (.error e, c.logged [identityQuery m.tableRef])
        | .ok names => (c.logged [identityQuery m.tableRef]).executed
          (if assignable names assigned = [] then refuse .onlyIdentityColumns
          else .ok (m.changeText c.dialect key (assignable names assigned))) := by
  have htarget : (UpdateData.mk (some m.tableRef) (written c.dialect assigned)
      (keyScope c.dialect key.1 key.2 .all)).checkedTarget = .ok m.tableRef := by
    simp [UpdateData.checkedTarget, written, hassigned]
  rw [Update.runOn_execute_msSql hdialect htarget]
  cases c.identityNames (identityQuery m.tableRef) with
  | error e => rfl
  | ok names =>
    refine congrArg (Connection.executed _) ?_
    rw [withoutIdentity_written, ← hdialect]
    by_cases hleft : assignable names assigned = []
    · simp [hleft, written]
    · rw [m.render_change hkey hleft]
      simp [hleft, written]

end

/-- **What becomes of an UPDATE of the row with a key** on a connection. -/
structure ChangesOwnRow (m : Model α) (c : Connection) (key : OwnRow)
    (assigned : List (String × Value)) (outcome : ModelResult UInt64 × Connection) : Prop where
  /-- Without assignments nothing is sent. -/
  nothing : assigned = [] →
    outcome = (.error (.database (.invalidArgument .updateWithoutAssignments)), c)
  /-- One UPDATE of the row is sent, unless there may be identity columns. -/
  sent : assigned ≠ [] → c.dialect ≠ .msSql →
    outcome = ((c.affectedBy (m.changeText c.dialect key assigned)).mapError .database,
      c.logged [m.changeText c.dialect key assigned])
  /-- If the query for identity columns fails, nothing more is sent. -/
  unknown : assigned ≠ [] → c.dialect = .msSql →
    ∀ e, c.identityNames (identityQuery m.tableRef) = .error e →
      outcome = (.error (.database e), c.logged [identityQuery m.tableRef])
  /-- If only identity columns are assigned, nothing more is sent. -/
  onlyIdentity : assigned ≠ [] → c.dialect = .msSql →
    ∀ names, c.identityNames (identityQuery m.tableRef) = .ok names →
      assignable names assigned = [] →
        outcome = (.error (.database (.invalidArgument .onlyIdentityColumns)),
          c.logged [identityQuery m.tableRef])
  /-- Otherwise one UPDATE of the row is sent that assigns the other columns. -/
  sentWithout : assigned ≠ [] → c.dialect = .msSql →
    ∀ names, c.identityNames (identityQuery m.tableRef) = .ok names →
      assignable names assigned ≠ [] →
        outcome
          = ((c.affectedBy (m.changeText c.dialect key (assignable names assigned))).mapError
              .database,
            c.logged [identityQuery m.tableRef,
              m.changeText c.dialect key (assignable names assigned)])

/-- **An UPDATE of the row with a key that is present changes only this row.** -/
theorem changesOwnRow (m : Model α) (c : Connection) {key : OwnRow} (hkey : key.2.isNull = false)
    {values : List (String × Value)} (hvalues : (values.map Prod.fst).Nodup) :
    m.ChangesOwnRow c key (assigned key values)
      (((m.change c.dialect key values).execute.mapError .database).runOn c) := by
  rw [m.change_eq c.dialect key hvalues]
  constructor
  case nothing =>
    intro hnil
    rw [hnil]
    refine Exchange.runOn_mapError (Update.runOn_execute_of_error ?_ rfl c) _
    exact Dialect.checkOffset_of_mem _ fun _ => rfl
  case sent =>
    intro hassigned hdialect
    exact Exchange.runOn_mapError (runOn_change m c hkey hassigned hdialect) _
  all_goals
    intro hassigned hdialect
    have hexecute := runOn_change_msSql m c hkey hassigned hdialect
  case unknown =>
    intro e hnames
    rw [hnames] at hexecute
    exact Exchange.runOn_mapError hexecute _
  case onlyIdentity =>
    intro names hnames hleft
    rw [hnames] at hexecute
    dsimp only at hexecute
    rw [if_pos hleft] at hexecute
    exact Exchange.runOn_mapError hexecute _
  case sentWithout =>
    intro names hnames hleft
    rw [hnames] at hexecute
    dsimp only at hexecute
    rw [if_neg hleft] at hexecute
    refine (Exchange.runOn_mapError hexecute _).trans ?_
    simp

/-- **A DELETE of the row with a key that is present removes only this row.** -/
theorem runOn_removal (m : Model α) (c : Connection) {key : OwnRow} (hkey : key.2.isNull = false) :
    ((((Delete.new c.dialect).fromTable m.tableRef).modifyScope
        (keyScope c.dialect key.1 key.2)).execute).runOn c
      = (c.affectedBy (m.removalText c.dialect key), c.logged [m.removalText c.dialect key]) := by
  have hstatement : (((Delete.new c.dialect).fromTable m.tableRef).modifyScope
      (keyScope c.dialect key.1 key.2)).statement false = .ok (m.removalText c.dialect key) := by
    refine (congrArg (Except.map _) (m.render_removal (d := c.dialect) hkey)).trans ?_
    rfl
  rw [Delete.runOn_execute, hstatement]
  rfl

/-! ## Updating and deleting -/

/-- The UPDATE of the row with a key on the connection at hand. -/
def writeChange (m : Model α) (key : OwnRow) (values : List (String × Value)) :
    ModelExchange UInt64 := do
  (m.change (← Exchange.dialect) key values).execute.mapError .database

/-- An object with a key is updated after the checks that leave out its own row. -/
theorem runOn_update_of_presentKey {key : OwnRow}
    (h : m.presentKey supplied .updateWithoutKey = .ok key) (clock : Clock) (c : Connection) :
    (m.update clock supplied).runOn c
      = (m.checkedWrite .change clock supplied (some key) (m.writeChange key)).runOn c := by
  rw [update, Exchange.runOn_ofResult_bind, h]
  rfl

/-- An object with a key is deleted at once. -/
theorem runOn_delete_of_presentKey {key : OwnRow} (hkey : key.2.isNull = false)
    (h : m.presentKey supplied .deleteWithoutKey = .ok key) (c : Connection) :
    (m.delete supplied).runOn c
      = ((c.affectedBy (m.removalText c.dialect key)).mapError .database,
        c.logged [m.removalText c.dialect key]) := by
  rw [delete, Exchange.runOn_ofResult_bind, h]
  dsimp only
  rw [Exchange.runOn_dialect_bind]
  exact Exchange.runOn_mapError (m.runOn_removal c hkey) _

/-- An object without a key is neither updated nor deleted. -/
theorem runOn_of_presentKey_error {fault : ValueFault → ModelError}
    (h : ∀ reason, m.presentKey supplied reason = .error (fault reason)) (clock : Clock)
    (c : Connection) :
    (m.update clock supplied).runOn c = (.error (fault .updateWithoutKey), c) ∧
      (m.delete supplied).runOn c = (.error (fault .deleteWithoutKey), c) := by
  constructor
  · rw [update, Exchange.runOn_ofResult_bind, h]
  · rw [delete, Exchange.runOn_ofResult_bind, h]

/-- **Updating and deleting write the object's own row only.**  On any connection, for distinct
columns: without a key nothing is sent.  With a key, deleting sends one DELETE of the row.  Updating
sends nothing for values that are refused.  Otherwise the unique values are looked for in other
rows, in order and one query each, and the checks pass or stop.  If they stop, nothing more is sent.
If they pass, the row is changed, each column but that of the key getting its value. -/
theorem only_own_row_is_written (hcolumns : m.columns.Nodup) (clock : Clock) (supplied : Supplied)
    (c : Connection) :
    let updated := (m.update clock supplied).runOn c
    let deleted := (m.delete supplied).runOn c
    (m.fields.find? (fun f => f.options.primaryKey) = none →
      updated = (.error (.noPrimaryKey m.table), c) ∧
      deleted = (.error (.noPrimaryKey m.table), c)) ∧
    ∀ pk, m.fields.find? (fun f => f.options.primaryKey) = some pk →
      let key := ownRow pk supplied
      let checks := m.uniqueValues .change clock supplied
      let query := m.duplicateText c.dialect (some key)
      (key.2.isNull = true →
        updated = (.error (.validation pk.column .updateWithoutKey), c) ∧
        deleted = (.error (.validation pk.column .deleteWithoutKey), c)) ∧
      (key.2.isNull = false →
        deleted = ((c.affectedBy (m.removalText c.dialect key)).mapError .database,
          c.logged [m.removalText c.dialect key]) ∧
        ((∃ e, m.Refuses .change clock supplied e) →
          ∃ e, m.Refuses .change clock supplied e ∧ updated = (.error e, c)) ∧
        ((∀ e, ¬m.Refuses .change clock supplied e) →
          (m.Passes c (some key) checks ∨ ∃ asked e, m.StopsAfter c (some key) checks asked e) ∧
          (∀ asked e, m.StopsAfter c (some key) checks asked e →
            updated = (.error e, c.logged (asked.map query))) ∧
          (m.Passes c (some key) checks →
            m.ChangesOwnRow (c.logged (checks.map query)) key
              (assigned key (m.chosenValues .change clock supplied)) updated))) := by
  intro updated deleted
  refine ⟨fun hnone => ?_, fun pk hpk => ?_⟩
  · exact runOn_of_presentKey_error (presentKey_of_none hnone supplied) clock c
  intro key checks query
  have hpresent := presentKey_of_some hpk supplied
  refine ⟨fun hnull => ?_, fun hkey => ?_⟩
  · exact runOn_of_presentKey_error (fun reason => (hpresent reason).trans (if_pos hnull)) clock c
  have hfound : ∀ reason, m.presentKey supplied reason = .ok key := fun reason =>
    (hpresent reason).trans (if_neg (Bool.not_eq_true _ ▸ hkey))
  have hown : ∀ own ∈ some key, own.2.isNull = false := by
    intro own hmem
    obtain rfl := Option.mem_some.1 hmem
    exact hkey
  have hupdated : updated = (m.checkedWrite .change clock supplied (some key)
      (m.writeChange key)).runOn c := runOn_update_of_presentKey (hfound _) clock c
  rw [hupdated]
  refine ⟨runOn_delete_of_presentKey hkey (hfound _) c,
    fun ⟨e, he⟩ => runOn_checkedWrite_of_refuses _ c he, fun hresolved => ?_⟩
  refine ⟨m.passes_or_stopsAfter c (some key) checks, fun asked e hstops => ?_, fun hpasses => ?_⟩
  · exact runOn_checkedWrite_of_stopsAfter _ c hcolumns hown hresolved hstops
  · rw [runOn_checkedWrite_of_passes _ c hcolumns hown hresolved hpasses, writeChange,
      Exchange.runOn_dialect_bind]
    exact changesOwnRow m (c.logged (checks.map query)) hkey (by rwa [map_fst_chosenValues])

/-! ## An account -/

/-- The primary key of accounts. -/
def accountId : Field := ⟨"id", .bigInteger {}, .ofList [.primaryKey true]⟩

/-- A table of accounts: a primary key, a unique column and a serial number. -/
def accounts : Model Unit :=
  ⟨"accounts", [accountId, ⟨"email", .email defaultEmailLength, .ofList [.unique true]⟩,
    ⟨"serial", .integer {}, .ofList []⟩], fun _ => .ok ()⟩

/-- The values of account 7. -/
def seventh : Supplied := [("email", .text "ann@example.com"), ("id", .int 7), ("serial", .int 3)]

/-- A clock that stands still. -/
def stoppedClock : Clock := fun _ => ⟨⟨2024, 5, 6, 7, 8, 9, 0⟩, by decide⟩

/-- The query for the email address in other accounts. -/
def seventhEmailQuery : String :=
  "SELECT COUNT(*) AS [count] FROM [accounts] WHERE [email] = 'ann@example.com' AND [id] <> 7"

/-- The UPDATE of the account. -/
def seventhUpdate : String := "UPDATE [accounts] SET [email] = 'ann@example.com' WHERE [id] = 7"

/-- The DELETE of the account. -/
def seventhDelete : String := "DELETE FROM [accounts] WHERE [id] = 7"

/-- A connection on which the key and the serial number are identity columns, and so many other
accounts have the email address. -/
def accountConnection (others : Int64) : Connection :=
  let counting := (Connection.ofDialect .msSql).withResult seventhEmailQuery
    [.ofPairs [("count", .int others)]]
  let probed := counting.withResult (identityQuery accounts.tableRef)
    [.ofPairs [("COLUMN_NAME", .text "ID")], .ofPairs [("COLUMN_NAME", .text "serial")]]
  (probed.withAffected seventhUpdate 1).failOn seventhDelete "denied"

/-- The account is updated without its serial number if nobody else has the email address; otherwise
the query for it is the only statement.  The DELETE of the account fails. -/
theorem only_own_row_of_seventh :
    accounts.columns.Nodup ∧
    (accounts.update stoppedClock seventh).runOn (accountConnection 0)
      = (.ok 1, (accountConnection 0).logged
        [seventhEmailQuery, identityQuery accounts.tableRef, seventhUpdate]) ∧
    (accounts.update stoppedClock seventh).runOn (accountConnection 1)
      = (.error (.validation "email" .taken), (accountConnection 1).logged [seventhEmailQuery]) ∧
    (accounts.delete seventh).runOn (accountConnection 0)
      = (.error (.database (.query "denied")), (accountConnection 0).logged [seventhDelete]) := by
  have hcolumns : accounts.columns.Nodup := by decide
  have hkey : accounts.fields.find? (fun f => f.options.primaryKey) = some accountId := rfl
  have hresolved := @not_refuses_of_isOk _ accounts .change stoppedClock seventh (by decide +kernel)
  have hown : ownRow accountId seventh = ("id", .int 7) := rfl
  have hchecks : accounts.uniqueValues .change stoppedClock seventh
      = [("email", .text "ann@example.com")] := rfl
  have hassigned : assigned ("id", .int 7) (accounts.chosenValues .change stoppedClock seventh)
      = [("email", .text "ann@example.com"), ("serial", .int 3)] := rfl
  have hdialect : ∀ others, (accountConnection others).dialect = .msSql := fun _ => rfl
  have hquery : accounts.duplicateText .msSql (some ("id", .int 7))
      ("email", .text "ann@example.com") = seventhEmailQuery := by decide +kernel
  have hchange : accounts.changeText .msSql ("id", .int 7) [("email", .text "ann@example.com")]
      = seventhUpdate := by decide +kernel
  have hremoval : accounts.removalText .msSql ("id", .int 7) = seventhDelete := by decide +kernel
  have hwritten := fun others => ((only_own_row_is_written hcolumns stoppedClock seventh
    (accountConnection others)).2 _ hkey).2 rfl
  simp only [hown, hchecks, hassigned, hdialect, hquery, hremoval, List.map_cons, List.map_nil]
    at hwritten
  refine ⟨hcolumns, ?_, ?_, ?_⟩
  · have hfree : (accountConnection 0).countOf seventhEmailQuery = .ok 0 := by decide +kernel
    have hpasses : accounts.Passes (accountConnection 0) (some ("id", .int 7))
        [("email", .text "ann@example.com")] := by
      simp [Passes, verdict, hdialect, hquery, hfree]
    have hnames : (accountConnection 0).identityNames (identityQuery accounts.tableRef)
        = .ok ["ID", "serial"] := by decide +kernel
    have hleft : assignable ["ID", "serial"]
        [("email", .text "ann@example.com"), ("serial", .int 3)]
          = [("email", .text "ann@example.com")] := by
      have hemail : isIdentity ["ID", "serial"] "email" = false := by decide +kernel
      have hserial : isIdentity ["ID", "serial"] "serial" = true := by decide +kernel
      simp [assignable, hemail, hserial]
    have haffected : (accountConnection 0).affectedBy seventhUpdate = .ok 1 := by decide +kernel
    obtain ⟨-, -, hupdated⟩ := hwritten 0
    have hsent := ((hupdated hresolved).2.2 hpasses).sentWithout (by simp) rfl _ hnames
      (by simp [hleft])
    simp only [hleft, Connection.dialect_logged, hdialect, hchange, Connection.affectedBy_logged,
      haffected, Connection.logged_logged] at hsent
    exact hsent
  · have htaken : (accountConnection 1).countOf seventhEmailQuery = .ok 1 := by decide +kernel
    obtain ⟨-, -, hupdated⟩ := hwritten 1
    refine (hupdated hresolved).2.1 [("email", .text "ann@example.com")] _
      ⟨[], _, rfl, List.prefix_rfl, by simp [Passes], ?_⟩
    simp [verdict, hdialect, hquery, htaken]
  · have hdenied : (accountConnection 0).affectedBy seventhDelete = .error (.query "denied") := by
      decide +kernel
    obtain ⟨hdeleted, -, -⟩ := hwritten 0
    rw [hdenied] at hdeleted
    exact hdeleted

end SqlBuilder.Model
