import SqlBuilder.Proofs.UniqueChecks

/-! # Inserting objects

An object is inserted in stages, and each of them can be the last.  Values that are refused send
nothing; then the unique values are looked for; then one INSERT is sent, whose cells are the values
of the fields in order, without primary keys that are absent (`Model.insert_sends`). -/

namespace SqlBuilder.Model

variable {α : Type} {m : Model α} {clock : Clock} {supplied : Supplied}

/-- **The cells of the new row**: the value of every field in order, but for fields of the primary
key whose value is absent. -/
def insertedRow (m : Model α) (clock : Clock) (supplied : Supplied) : List (String × Value) :=
  (m.fields.filter fun f =>
    !(f.options.primaryKey && (chosenValue .insertion clock supplied f).isNull)).map fun f =>
      (f.column, chosenValue .insertion clock supplied f)

/-- A field with a column of its own decides whether the column belongs to the primary key. -/
theorem isKeyColumn_column (hcolumns : m.columns.Nodup) {f : Field} (hf : f ∈ m.fields) :
    m.isKeyColumn f.column = f.options.primaryKey := by
  rw [isKeyColumn, Bool.eq_iff_iff, List.any_eq_true]
  constructor
  · rintro ⟨g, hg, hkey⟩
    obtain ⟨hcolumn, hprimary⟩ := Bool.and_eq_true_iff.1 hkey
    rwa [← List.inj_on_of_nodup_map hcolumns hg hf (by simpa using hcolumn)]
  · intro hprimary
    exact ⟨f, hf, by simp [hprimary]⟩

/-- **The values without absent primary keys are the cells of the new row.** -/
theorem newRow_chosenValues (hcolumns : m.columns.Nodup) (clock : Clock) (supplied : Supplied) :
    m.newRow (m.chosenValues .insertion clock supplied) = m.insertedRow clock supplied := by
  rw [newRow, chosenValues, List.filter_map, insertedRow]
  refine congrArg (List.map _) (List.filter_congr fun f hf => ?_)
  simp only [Function.comp_apply, isKeyColumn_column hcolumns hf, Bool.and_comm]

/-- The columns of the new row are distinct if those of the fields are. -/
theorem nodup_insertedRow (hcolumns : m.columns.Nodup) (clock : Clock) (supplied : Supplied) :
    ((m.insertedRow clock supplied).map Prod.fst).Nodup := by
  have hfst : (m.insertedRow clock supplied).map Prod.fst = (m.fields.filter fun f =>
      !(f.options.primaryKey && (chosenValue .insertion clock supplied f).isNull)).map
        Field.column := by
    simp [insertedRow]
  rw [hfst]
  exact hcolumns.sublist (List.filter_sublist.map Field.column)

/-- The INSERT of a row on the connection at hand. -/
def writeRow (m : Model α) (values : List (String × Value)) : ModelExchange UInt64 := do
  (m.insertion (← Exchange.dialect) (m.newRow values)).execute.mapError .database

/-- An object is inserted after the checks. -/
theorem insert_eq_checkedWrite (m : Model α) (clock : Clock) (supplied : Supplied) :
    m.insert clock supplied = m.checkedWrite .insertion clock supplied none m.writeRow := rfl

/-- **The INSERT of the new row is sent once** if the row has cells. -/
theorem runOn_writeRow (hcolumns : m.columns.Nodup) (clock : Clock) (supplied : Supplied)
    (c : Connection) :
    (m.writeRow (m.chosenValues .insertion clock supplied)).runOn c
      = if m.insertedRow clock supplied = [] then
          (.error (.database (.invalidArgument .insertWithoutValues)), c)
        else
          let sql := m.insertionText c.dialect (m.insertedRow clock supplied)
          ((c.affectedBy sql).mapError .database, c.logged [sql]) := by
  have hstatement := m.statement_insertion (d := c.dialect)
    (nodup_insertedRow hcolumns clock supplied)
  have hexecute := Insert.runOn_execute (m.insertion c.dialect (m.insertedRow clock supplied)) c
  rw [writeRow, Exchange.runOn_dialect_bind, newRow_chosenValues hcolumns,
    Exchange.runOn_mapError hexecute, hstatement]
  by_cases hrow : m.insertedRow clock supplied = []
  · rw [if_pos hrow, if_pos hrow]
    rfl
  · rw [if_neg hrow, if_neg hrow]

/-- **Inserting sends what it should, and nothing for values that are refused.**  On any connection,
for distinct columns: values that are refused send nothing.  Otherwise the unique values are looked
for in order, one query each, and the checks pass or stop.  If they stop, nothing more is sent.  If
they pass, one INSERT of the new row is sent, or nothing more if the row has no cells. -/
theorem insert_sends (hcolumns : m.columns.Nodup) (clock : Clock) (supplied : Supplied)
    (c : Connection) :
    let outcome := (m.insert clock supplied).runOn c
    let checks := m.uniqueValues .insertion clock supplied
    let query := m.duplicateText c.dialect none
    let row := m.insertedRow clock supplied
    ((∃ e, m.Refuses .insertion clock supplied e) →
      ∃ e, m.Refuses .insertion clock supplied e ∧ outcome = (.error e, c)) ∧
    ((∀ e, ¬m.Refuses .insertion clock supplied e) →
      (m.Passes c none checks ∨ ∃ asked e, m.StopsAfter c none checks asked e) ∧
      (∀ asked e, m.StopsAfter c none checks asked e →
        outcome = (.error e, c.logged (asked.map query))) ∧
      (m.Passes c none checks →
        (row = [] → outcome
          = (.error (.database (.invalidArgument .insertWithoutValues)),
            c.logged (checks.map query))) ∧
        (row ≠ [] → outcome
          = ((c.affectedBy (m.insertionText c.dialect row)).mapError .database,
            c.logged (checks.map query ++ [m.insertionText c.dialect row]))))) := by
  intro outcome checks query row
  have houtcome : outcome = (m.checkedWrite .insertion clock supplied none m.writeRow).runOn c :=
    congrArg (Exchange.runOn · c) (m.insert_eq_checkedWrite clock supplied)
  have hnoOwn : ∀ key ∈ (none : Option OwnRow), key.2.isNull = false := by simp
  rw [houtcome]
  refine ⟨fun ⟨e, he⟩ => runOn_checkedWrite_of_refuses _ c he, fun hresolved => ?_⟩
  refine ⟨m.passes_or_stopsAfter c none checks, fun asked e hstops => ?_, fun hpasses => ?_⟩
  · exact runOn_checkedWrite_of_stopsAfter _ c hcolumns hnoOwn hresolved hstops
  rw [runOn_checkedWrite_of_passes _ c hcolumns hnoOwn hresolved hpasses, runOn_writeRow hcolumns]
  refine ⟨fun hrow => if_pos hrow, fun hrow => (if_neg hrow).trans ?_⟩
  dsimp only
  rw [Connection.logged_logged]
  rfl

/-! ## An author -/

/-- A table of authors: a primary key, two unique columns and the time of insertion. -/
def authors : Model Unit :=
  ⟨"authors", [⟨"id", .bigInteger {}, .ofList [.primaryKey true]⟩,
    ⟨"email", .email defaultEmailLength, .ofList [.unique true]⟩,
    ⟨"handle", .char 20 none, .ofList [.unique true]⟩,
    ⟨"joined", .dateTime false true, .ofList []⟩], fun _ => .ok ()⟩

/-- The time at which the author is inserted. -/
def joining : Timestamp := ⟨⟨2023, 1, 2, 3, 4, 5, 0⟩, by decide⟩

/-- An author without primary key. -/
def ann : Supplied := [("handle", .text "ann"), ("email", .text "ann@example.com")]

/-- The query for the email address of the author. -/
def annEmailQuery : String :=
  "SELECT COUNT(*) AS \"count\" FROM \"authors\" WHERE \"email\" = 'ann@example.com'"

/-- The query for the handle of the author. -/
def annHandleQuery : String :=
  "SELECT COUNT(*) AS \"count\" FROM \"authors\" WHERE \"handle\" = 'ann'"

/-- The INSERT of the author. -/
def annInsertion : String :=
  "INSERT INTO \"authors\" (\"email\", \"handle\", \"joined\") VALUES ('ann@example.com', 'ann', "
    ++ "TIMESTAMP '2023-01-02 03:04:05')"

/-- A connection on which nobody else has the email address, and so many have the handle. -/
def annConnection (handles : Int64) : Connection :=
  let nobody := (Connection.ofDialect .postgreSql).withResult annEmailQuery
    [.ofPairs [("count", .int 0)]]
  (nobody.withResult annHandleQuery [.ofPairs [("count", .int handles)]]).withAffected annInsertion 1

/-- The author is inserted if nobody has the handle; otherwise the second query is the last
statement. -/
theorem insert_sends_of_ann :
    authors.columns.Nodup ∧
    (authors.insert (fun _ => joining) ann).runOn (annConnection 0)
      = (.ok 1, (annConnection 0).logged [annEmailQuery, annHandleQuery, annInsertion]) ∧
    (authors.insert (fun _ => joining) ann).runOn (annConnection 1)
      = (.error (.validation "handle" .taken),
        (annConnection 1).logged [annEmailQuery, annHandleQuery]) := by
  have hcolumns : authors.columns.Nodup := by decide
  have hresolved := @not_refuses_of_isOk _ authors .insertion (fun _ => joining) ann
    (by decide +kernel)
  have hchecks : authors.uniqueValues .insertion (fun _ => joining) ann
      = [("email", .text "ann@example.com"), ("handle", .text "ann")] := rfl
  have hrow : authors.insertedRow (fun _ => joining) ann = [("email", .text "ann@example.com"),
      ("handle", .text "ann"), ("joined", .timestamp joining)] := rfl
  have hemail : authors.duplicateText .postgreSql none ("email", .text "ann@example.com")
      = annEmailQuery := by decide +kernel
  have hhandle : authors.duplicateText .postgreSql none ("handle", .text "ann")
      = annHandleQuery := by decide +kernel
  have hinsertion : authors.insertionText .postgreSql [("email", .text "ann@example.com"),
      ("handle", .text "ann"), ("joined", .timestamp joining)] = annInsertion := by decide +kernel
  have hdialect : ∀ handles, (annConnection handles).dialect = .postgreSql := fun _ => rfl
  have hfirst : ∀ handles, authors.verdict (annConnection handles) none
      ("email", .text "ann@example.com") = .ok () := by
    intro handles
    have hcount : (annConnection handles).countOf annEmailQuery = .ok 0 := by rfl
    simp only [verdict, hdialect, hemail, hcount]
    rfl
  have hfree : authors.verdict (annConnection 0) none ("handle", .text "ann") = .ok () := by
    have hcount : (annConnection 0).countOf annHandleQuery = .ok 0 := by decide +kernel
    simp only [verdict, hdialect, hhandle, hcount]
    rfl
  have htaken : authors.verdict (annConnection 1) none ("handle", .text "ann")
      = .error (.validation "handle" .taken) := by
    have hcount : (annConnection 1).countOf annHandleQuery = .ok 1 := by decide +kernel
    simp only [verdict, hdialect, hhandle, hcount]
    rfl
  have haffected : (annConnection 0).affectedBy annInsertion = .ok 1 := by decide +kernel
  refine ⟨hcolumns, ?_, ?_⟩
  · obtain ⟨-, hsends⟩ := insert_sends hcolumns (fun _ => joining) ann (annConnection 0)
    replace hsends := (hsends hresolved).2.2
    rw [hchecks, hrow] at hsends
    have hsent := (hsends (by simp [Passes, hfirst, hfree])).2 (by simp)
    simp only [hdialect, hemail, hhandle, hinsertion, haffected, List.map_cons, List.map_nil,
      List.cons_append, List.nil_append] at hsent
    exact hsent
  · obtain ⟨-, hsends⟩ := insert_sends hcolumns (fun _ => joining) ann (annConnection 1)
    replace hsends := (hsends hresolved).2.1
    rw [hchecks] at hsends
    have hsent := hsends _ _ ⟨[("email", .text "ann@example.com")], ("handle", .text "ann"), rfl,
      List.prefix_rfl, by simp [Passes, hfirst], htaken⟩
    simp only [hdialect, hemail, hhandle, List.map_cons, List.map_nil, List.cons_append,
      List.nil_append] at hsent
    exact hsent

end SqlBuilder.Model
