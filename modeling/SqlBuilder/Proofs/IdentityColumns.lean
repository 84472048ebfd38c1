import SqlBuilder.Proofs.Acceptance
import SqlBuilder.Proofs.Exchanges
import SqlBuilder.Proofs.QuotedNames

/-! # Updates without identity columns

Where identity columns must not be assigned, the command of an UPDATE leaves out the assignments of
those that the connection names, and renders the rest (`update_leaves_out_identity_columns`).  Which
assignments these are is decided by a column as it is read.  Under every answer of the connection
these are the ones of the columns as they are written exactly if all assigned columns are plain
(`UpdateData.withoutIdentity_eq_iff`). -/

namespace SqlBuilder

/-! ## Columns as they are written -/

/-- **The name of a column as a dialect writes it**: what its quotes hold at the end. -/
def Dialect.columnName (d : Dialect) (column : String) : String :=
  (d.endName (d.identifier column)).getD ""

/-- The name of a written column is that of its last segment. -/
theorem Dialect.columnName_eq (d : Dialect) (column : String) :
    d.columnName column = segmentName (Text.lastPiece '.' column) := by
  rw [columnName, endName_identifier]
  rfl

namespace UpdateData

/-- **The UPDATE without the assignments of columns that are written as one of some names**, up to
letter case. -/
def withoutWritten (data : UpdateData) (names : List String) : UpdateData :=
  { data with assignments := data.assignments.filter fun a =>
    !names.any fun name => Text.equalIgnoringCase name (Dialect.msSql.columnName a.1) }

/-- A plain column is among some names as it is read exactly if it is as it is written. -/
theorem isIdentity_eq {column : String} (h : IsPlainSegment (Text.lastPiece '.' column))
    (names : List String) :
    isIdentity names column
      = names.any fun name => Text.equalIgnoringCase name (Dialect.msSql.columnName column) := by
  have hsame := (equalIgnoringCase_unquoted_iff _).2 h
  rw [Text.equalIgnoringCase, beq_iff_eq] at hsame
  rw [isIdentity, Dialect.columnName_eq]
  simp only [Text.equalIgnoringCase, hsame]

/-- **The same assignments are left out under all names exactly if all columns are plain.** -/
theorem withoutIdentity_eq_iff (data : UpdateData) :
    (∀ names, data.withoutIdentity names = data.withoutWritten names) ↔
      ∀ a ∈ data.assignments, IsPlainSegment (Text.lastPiece '.' a.1) := by
  constructor
  · intro hsame a ha
    -- The connection names the column just as it is written.
    have hassignments := congrArg assignments (hsame [Dialect.msSql.columnName a.1])
    have hdropped : a ∉ (data.withoutIdentity [Dialect.msSql.columnName a.1]).assignments := by
      rw [hassignments]
      simp [withoutWritten]
    have hread : isIdentity [Dialect.msSql.columnName a.1] a.1 = true := by
      simpa [withoutIdentity, ha] using hdropped
    rw [← equalIgnoringCase_unquoted_iff, Text.equalIgnoringCase_comm]
    simpa [isIdentity, Dialect.columnName_eq] using hread
  · intro hplain names
    have hfilter : data.assignments.filter (fun a => !isIdentity names a.1)
        = data.assignments.filter fun a =>
          !names.any fun name => Text.equalIgnoringCase name (Dialect.msSql.columnName a.1) :=
      List.filter_congr fun a ha => congrArg not (isIdentity_eq (hplain a ha) names)
    rw [withoutIdentity, withoutWritten, hfilter]

end UpdateData

/-! ## The command of an UPDATE -/

/-- **An UPDATE of a table whose command leaves out assignments.** The connection is asked for the
identity columns once, and for nothing else.  Its failure is the failure of the command; under the
names that it gives, the command is the text of what is left of the UPDATE, if anything is. -/
def Update.LeavesOut (s : Update) (t : TableRef) (rest : List String → UpdateData) : Prop :=
  ∀ c : Connection,
    (s.commandOn.runOn c).2 = c.logged [identityQuery t] ∧
    (∀ e, c.identityNames (identityQuery t) = .error e → (s.commandOn.runOn c).1 = .error e) ∧
    ∀ names, c.identityNames (identityQuery t) = .ok names →
      ((s.commandOn.runOn c).1 = refuse .onlyIdentityColumns ↔ (rest names).assignments = []) ∧
      ((rest names).assignments ≠ [] → ∃ sql,
        Update.statement ⟨.msSql, rest names⟩ false = .ok sql ∧
        (s.commandOn.runOn c).1 = .ok (.ofText sql))

/-- **The command leaves out the assignments of identity columns as they are read**, and these are
the ones of identity columns as they are written, whichever the connection names, exactly if all
assigned columns are plain. -/
theorem update_leaves_out_identity_columns {s : Update} (hdialect : s.dialect = .msSql)
    (hcomplete : s.data.IsComplete) {t : TableRef} (ht : s.data.target = some t) :
    s.LeavesOut t s.data.withoutIdentity ∧
    ((∀ names, s.data.withoutIdentity names = s.data.withoutWritten names) ↔
      ∀ a ∈ s.data.assignments, IsPlainSegment (Text.lastPiece '.' a.1)) := by
  refine ⟨fun c => ?_, s.data.withoutIdentity_eq_iff⟩
  obtain ⟨-, hassigns, hfilter⟩ := hcomplete
  have htarget : s.data.checkedTarget = .ok t := by
    rw [UpdateData.checkedTarget, ht]
    simp [hassigns]
  rw [Update.runOn_commandOn_msSql hdialect htarget]
  refine ⟨rfl, fun e he => by rw [he]; rfl, fun names hnames => ?_⟩
  rw [hnames]
  dsimp only [Except.bind]
  -- Nothing but an empty list of assignments can fail, as the UPDATE is complete.
  by_cases hrest : (s.data.withoutIdentity names).assignments = []
  · rw [if_pos (List.isEmpty_iff.2 hrest)]
    exact ⟨iff_of_true rfl hrest, fun hne => absurd hrest hne⟩
  · have hleft : (s.data.withoutIdentity names).IsComplete :=
      ⟨fun hnone => by simp [UpdateData.withoutIdentity, ht] at hnone, hrest, hfilter⟩
    obtain ⟨sql, hsql⟩ := (UpdateData.succeedsIff_render (d := .msSql)
      (fun hskip => absurd hskip (by decide))).exists_eq_ok_iff.2 hleft
    rw [if_neg fun hempty => hrest (List.isEmpty_iff.1 hempty), hsql]
    refine ⟨iff_of_false (by rintro ⟨⟩) hrest, fun _ => ⟨sql, ?_, rfl⟩⟩
    rw [Update.statement, hsql]
    rfl

/-- The age of users is set, and their identity column is not. -/
theorem update_leaves_out_user_id :
    let users : TableRef := ⟨"users", none⟩
    let s : Update := ⟨.msSql, ⟨some users, [("[id]", "7"), ("age", "0")], .all⟩⟩
    s.dialect = .msSql ∧ s.data.IsComplete ∧ s.data.target = some users ∧
    s.LeavesOut users s.data.withoutIdentity ∧
    ((∀ names, s.data.withoutIdentity names = s.data.withoutWritten names) ↔
      ∀ a ∈ s.data.assignments, IsPlainSegment (Text.lastPiece '.' a.1)) := by
  intro users s
  have hcomplete : s.data.IsComplete := ⟨by simp [s], by simp [s], Predicates.renders_empty⟩
  exact ⟨rfl, hcomplete, rfl, update_leaves_out_identity_columns rfl hcomplete rfl⟩

/-- **An identity column that is assigned**: with blanks around it, it is written as the connection
names it, but not read as that. -/
theorem update_assigns_identity_column :
    let users : TableRef := ⟨"users", none⟩
    let s : Update := ⟨.msSql, ⟨some users, [(" id ", "7"), ("name", "'y'")], .all⟩⟩
    let c := (Connection.ofDialect .msSql).withResult (identityQuery users)
      [Record.mk [("COLUMN_NAME", .text "id")]]
    c.identityNames (identityQuery users) = .ok ["id"] ∧
    Dialect.msSql.columnName " id " = "id" ∧
    Update.statement ⟨.msSql, s.data.withoutWritten ["id"]⟩ false
      = .ok "UPDATE [users] SET [name] = 'y'" ∧
    (s.commandOn.runOn c).1 = .ok (.ofText "UPDATE [users] SET [id] = 7, [name] = 'y'") := by
  intro users s c
  have hrows : c.rowsOf (identityQuery users) = .ok [Record.mk [("COLUMN_NAME", .text "id")]] := by
    have hfind : c.results.find (identityQuery users)
        = some [Record.mk [("COLUMN_NAME", .text "id")]] := Entries.find_put_self _ _ _
    have hfailures : c.failures.find (identityQuery users) = none := rfl
    rw [Connection.rowsOf, hfailures, hfind]
    rfl
  have hnames : c.identityNames (identityQuery users) = .ok ["id"] := by
    rw [Connection.identityNames, hrows]
    rfl
  have hcommand : (if (s.data.withoutIdentity ["id"]).assignments.isEmpty
      then refuse .onlyIdentityColumns else (s.data.withoutIdentity ["id"]).render .msSql)
        = .ok "UPDATE [users] SET [id] = 7, [name] = 'y'" := by decide +kernel
  refine ⟨hnames, ?_, by decide +kernel, ?_⟩
  · rw [Dialect.columnName_eq]
    decide +kernel
  · rw [Update.runOn_commandOn_msSql rfl rfl, hnames]
    dsimp only [Except.bind]
    rw [hcommand]
    rfl

end SqlBuilder
