import SqlBuilder.Proofs.OwnRow
import SqlBuilder.Proofs.Plain
import SqlBuilder.Proofs.ReadBack
import SqlBuilder.Proofs.StoredObjects
import SqlBuilder.Proofs.TextEnds

/-! # The values that models write

An INSERT or an UPDATE of a model has one value for each of its columns.  Every one of these values
was accepted by a field, whether it was supplied, is a default or comes from the clock; so it is
never SQL text, and its literal is `NULL` only if the value is absent and the field accepts that
(`Model.writes_accepted_values`). -/

namespace SqlBuilder

/-! ## Accepted values -/

/-- **Whether a value is one of those that fields check**: neither absent, nor bytes, nor SQL text,
nor a fractional number that is not finite. -/
def Value.IsOrdinary : Value → Prop
  | .bool _ | .int _ | .text _ | .timestamp _ => True
  | .float x => x.isFinite = true
  | .null | .blob _ | .raw _ => False

/-- An ordinary value is present. -/
theorem Value.IsOrdinary.ne_null {v : Value} (h : v.IsOrdinary) : v ≠ .null := by
  rintro rfl
  exact h

/-- An ordinary value is not SQL text. -/
theorem Value.IsOrdinary.ne_raw {v : Value} (h : v.IsOrdinary) (sql : String) : v ≠ .raw sql := by
  rintro rfl
  exact h

/-- A value that is checked as a text is a text. -/
theorem isOrdinary_of_textOf {v : Value} {s : String} (h : textOf v = .ok s) : v.IsOrdinary := by
  cases v with
  | text => trivial
  | _ => cases h

/-- A value that is checked as an integer is an integer or a text. -/
theorem isOrdinary_of_integerOf {v : Value} {n : Int64} (h : integerOf v = .ok n) :
    v.IsOrdinary := by
  cases v with
  | int | text => trivial
  | _ => cases h

/-- A value that is checked as a finite number is an integer, a text or a finite number. -/
theorem isOrdinary_of_floatOf {v : Value} {x y : Float} (h : floatOf v = .ok x)
    (hfinite : finite x = .ok y) : v.IsOrdinary := by
  cases v with
  | int | text => trivial
  | float z =>
    obtain rfl := Except.ok.inj h
    by_cases hz : z.isFinite = true
    · exact hz
    · rw [finite, if_neg hz] at hfinite
      cases hfinite
  | _ => cases h

/-- **No kind of field takes anything but ordinary values.** -/
theorem FieldKind.Takes.isOrdinary {kind : FieldKind} {v : Value} (h : kind.Takes v) :
    v.IsOrdinary := by
  cases kind with
  | char | text | email =>
    obtain ⟨s, hs⟩ := h
    exact isOrdinary_of_textOf hs
  | integer bounds =>
    obtain ⟨n, -, hn, -⟩ := h
    exact isOrdinary_of_integerOf hn
  | bigInteger bounds =>
    obtain ⟨n, hn⟩ := h
    exact isOrdinary_of_integerOf hn
  | float bounds =>
    obtain ⟨x, y, hx, hy⟩ := h
    exact isOrdinary_of_floatOf hx hy
  | boolean =>
    cases v with
    | bool | int | text => trivial
    | _ => cases h
  | dateTime autoNow autoNowAdd =>
    cases v with
    | timestamp | text => trivial
    | _ => cases h

/-- **What a field accepts** is an ordinary value, or the absent one if its options say so. -/
theorem Field.isOrdinary_of_validate {f : Field} {v : Value} (h : f.validate v = .ok ()) :
    v = .null ∧ f.options.null = true ∨ v.IsOrdinary := by
  by_cases hnull : v.isNull = true
  · left
    cases v with
    | null =>
      rw [validate_null] at h
      split at h
      · next hoption => exact ⟨rfl, hoption⟩
      · cases h
    | _ => cases hnull
  · right
    exact (takes_of_validate (Bool.eq_false_iff.2 hnull) h).isOrdinary

/-! ## Literals of accepted values -/

/-- A text that is made like a number is not `NULL`. -/
theorem ConsistsOf.ne_null {s : String} (h : ConsistsOf isNumberChar s) : s ≠ "NULL" := by
  rintro rfl
  exact absurd h (by decide)

/-- A text with another first character is not `NULL`. -/
theorem ne_null_of_head? {s : String} {c : Char} (h : s.toList.head? = some c) (hc : c ≠ 'N') :
    s ≠ "NULL" := by
  rintro rfl
  exact hc (Option.some.inj h).symm

namespace Dialect

variable (d : Dialect)

/-- A text literal starts with a quote. -/
theorem textLiteral_ne_null (s : String) : d.textLiteral s ≠ "NULL" := by
  refine ne_null_of_head? (c := singleQuote) ?_ (by decide)
  rw [textLiteral, String.toList_ofList]
  rfl

/-- A timestamp literal starts with a quote or a word of its own. -/
theorem timestampLiteral_ne_null (t : Timestamp) : d.timestampLiteral t ≠ "NULL" := by
  have hword (phrase rest more : String) (c : Char) (hphrase : phrase.toList.head? = some c)
      (hc : c ≠ 'N') : phrase ++ rest ++ more ≠ "NULL" :=
    ne_null_of_head? (((Text.StartsWith.of_append phrase rest).append more).head?_eq hphrase) hc
  cases d
  case mariaDb => exact textLiteral_ne_null _ _
  case mySql => exact textLiteral_ne_null _ _
  case sqlite => exact textLiteral_ne_null _ _
  case msSql => exact hword "'" _ _ singleQuote (by decide) (by decide)
  case oracle => exact hword "TO_TIMESTAMP('" _ _ 'T' (by decide) (by decide)
  all_goals exact hword "TIMESTAMP '" _ _ 'T' (by decide) (by decide)

/-- **The literal of an ordinary value is not `NULL`**, whatever the value. -/
theorem literal_ne_null {v : Value} (h : v.IsOrdinary) : d.literal v ≠ "NULL" := by
  cases v with
  | bool b => cases d <;> cases b <;> decide
  | int n => exact (isNumber_toString_int _).ne_null
  | float x =>
    have hfinite : x.isFinite = true := h
    rw [literal, floatLiteral, if_pos hfinite]
    exact (Decimal.isNumber_render _ x).ne_null
  | text s => exact d.textLiteral_ne_null s
  | timestamp t => exact d.timestampLiteral_ne_null t
  | null | blob | raw => exact h.elim

end Dialect

/-! ## Cells -/

namespace Model

variable {α : Type} {m : Model α} {occasion : Occasion} {clock : Clock} {supplied : Supplied}
  {d : Dialect}

/-- **A cell that a field fills**: a column with the value of its field, as it is written in a
dialect. -/
structure Fills (m : Model α) (occasion : Occasion) (clock : Clock) (supplied : Supplied)
    (d : Dialect) (cell : String × Value) : Prop where
  /-- The cell has the column and the value of a field, which is `NULL` only if that accepts it. -/
  field : ∃ f ∈ m.fields, cell = (f.column, chosenValue occasion clock supplied f) ∧
    (d.literal cell.2 = "NULL" → f.options.null = true)
  /-- It is written as `NULL` iff the value is absent. -/
  null_iff : d.literal cell.2 = "NULL" ↔ cell.2 = .null
  /-- It is not SQL text. -/
  ne_raw : ∀ sql, cell.2 ≠ .raw sql

/-- **An accepted value fills a cell** in every dialect. -/
theorem fills_of_validate {f : Field} (hf : f ∈ m.fields)
    (hvalid : f.validate (chosenValue occasion clock supplied f) = .ok ()) (d : Dialect) :
    m.Fills occasion clock supplied d (f.column, chosenValue occasion clock supplied f) := by
  rcases Field.isOrdinary_of_validate hvalid with ⟨hnull, hoption⟩ | hordinary
  · refine ⟨⟨f, hf, rfl, fun _ => hoption⟩, ?_, ?_⟩
    · simp [hnull]
    · simp [hnull]
  · have hwritten := d.literal_ne_null hordinary
    exact ⟨⟨f, hf, rfl, fun h => absurd h hwritten⟩,
      ⟨fun h => absurd h hwritten, fun h => absurd h hordinary.ne_null⟩, hordinary.ne_raw⟩

/-- **Resolved values fill cells.** -/
theorem fills_of_resolve {values : List (String × Value)}
    (h : m.resolve occasion clock supplied = .ok values) (d : Dialect) :
    ∀ cell ∈ values, m.Fills occasion clock supplied d cell := by
  rw [resolve] at h
  split at h
  · cases h
  · rcases mapM_resolveField occasion clock supplied m.fields with
      ⟨hvalid, hresolve⟩ | ⟨f, -, fault, -, hresolve⟩
    · rw [hresolve] at h
      obtain rfl := Except.ok.inj h
      intro cell hcell
      obtain ⟨f, hf, rfl⟩ := List.mem_map.1 hcell
      exact fills_of_validate hf (hvalid f hf) d
    · rw [hresolve] at h
      cases h

/-! ## Queries before the statement -/

/-- **Whether a statement is a query.** -/
def IsQuery (sql : String) : Prop := Text.StartsWith "SELECT " sql

/-- Looking for a value in other rows is a query. -/
theorem isQuery_duplicateText (m : Model α) (d : Dialect) (own : Option OwnRow)
    (check : String × Value) : IsQuery (m.duplicateText d own check) := by
  have hstart : IsQuery "SELECT COUNT(*) AS " := ⟨"COUNT(*) AS ", rfl⟩
  exact (((((((hstart.append _).append _).append _).append _).append _).append _).append _).append _

/-- Asking for identity columns is a query. -/
theorem isQuery_identityQuery (t : TableRef) : IsQuery (identityQuery t) := by
  have hstart : IsQuery
      "SELECT [COLUMN_NAME] FROM [INFORMATION_SCHEMA].[COLUMNS] WHERE [TABLE_NAME] = " :=
    ⟨"[COLUMN_NAME] FROM [INFORMATION_SCHEMA].[COLUMNS] WHERE [TABLE_NAME] = ", rfl⟩
  exact (((hstart.append _).append _).append _).append _

/-- Checks send queries only. -/
theorem isQuery_of_mem_checkAll {c : Connection} {own : Option OwnRow}
    {checks : List (String × Value)} :
    ∀ sql ∈ (m.checkAll c own checks).2, IsQuery sql := by
  induction checks with
  | nil => simp [checkAll]
  | cons check rest ih =>
    rw [checkAll]
    cases m.verdict c own check with
    | error e => simpa using m.isQuery_duplicateText c.dialect own check
    | ok => exact List.forall_mem_cons.2 ⟨m.isQuery_duplicateText c.dialect own check, ih⟩

/-- **What is sent before values are written are queries**, and only resolved values are written. -/
theorem sendsOnly_checkedWrite {own : Option OwnRow} (hown : ∀ key ∈ own, key.2.isNull = false)
    {write : List (String × Value) → ModelExchange UInt64} {P : String → Prop} {c : Connection}
    (hquery : ∀ sql, IsQuery sql → P sql)
    (hwrite : ∀ values, m.resolve occasion clock supplied = .ok values → ∀ sqls,
      (write values).SendsOnly P (c.logged sqls)) :
    (m.checkedWrite occasion clock supplied own write).SendsOnly P c := by
  rw [checkedWrite]
  refine .bind (.of_runOn_self (Exchange.runOn_ofResult _ c)) fun values sqls hresolve => ?_
  have hvalues : m.resolve occasion clock supplied = .ok values := congrArg Prod.fst hresolve
  have hchecks := runOn_forM_checkUniqueField (m := m) hown values (m.fields.filter isUniqueField)
    (c.logged sqls)
  refine .bind (.of_runOn hchecks fun sql hsql => ?_) fun _ sqls' _ => ?_
  · exact hquery sql (isQuery_of_mem_checkAll sql hsql)
  · rw [Connection.logged_logged]
    exact hwrite values hvalues _

/-! ## The statements -/

/-- **Whether a statement inserts a row of filled cells.** -/
def InsertsFilled (m : Model α) (clock : Clock) (supplied : Supplied) (d : Dialect)
    (sql : String) : Prop :=
  ∃ cells, cells ≠ [] ∧ sql = m.insertionText d cells ∧
    ∀ cell ∈ cells, m.Fills .insertion clock supplied d cell

/-- **Whether a statement assigns filled cells** to the row with a key. -/
def AssignsFilled (m : Model α) (clock : Clock) (supplied : Supplied) (d : Dialect)
    (sql : String) : Prop :=
  ∃ key cells, cells ≠ [] ∧ sql = m.changeText d key cells ∧
    ∀ cell ∈ cells, m.Fills .change clock supplied d cell

/-- **Filled cells are inserted**, the last one of each column. -/
theorem sendsOnly_writeRow {values : List (String × Value)} {c : Connection}
    (hvalues : ∀ cell ∈ values, m.Fills .insertion clock supplied c.dialect cell) :
    (m.writeRow values).SendsOnly (m.InsertsFilled clock supplied c.dialect) c := by
  refine .dialect_bind (.mapError ?_ _)
  obtain ⟨sqls, hlogged, hsqls⟩ :=
    c.executed_eq ((m.insertion c.dialect (m.newRow values)).statement false)
  refine ⟨sqls, ?_, fun sql hsql => ?_⟩
  · rw [Insert.runOn_execute]
    exact hlogged
  · have hstatement := hsqls sql hsql
    rw [← m.insertion_ofPairs, m.statement_insertion (Entries.nodup_ofPairs _)] at hstatement
    split at hstatement
    · cases hstatement
    · next hcells =>
      refine ⟨_, hcells, (Except.ok.inj hstatement).symm, fun cell hcell => ?_⟩
      exact hvalues cell (List.mem_filter.1 (Entries.mem_of_mem_ofPairs hcell)).1

/-- **Filled cells are assigned**, the last one of each column but that of the key. -/
theorem sendsOnly_writeChange {key : OwnRow} (hkey : key.2.isNull = false)
    {values : List (String × Value)} {c : Connection}
    (hvalues : ∀ cell ∈ values, m.Fills .change clock supplied c.dialect cell) :
    (m.writeChange key values).SendsOnly
      (fun sql => IsQuery sql ∨ m.AssignsFilled clock supplied c.dialect sql) c := by
  have hcells : ∀ cell ∈ Entries.ofPairs (assigned key values),
      m.Fills .change clock supplied c.dialect cell := fun cell hcell =>
    hvalues cell (List.mem_filter.1 (Entries.mem_of_mem_ofPairs hcell)).1
  refine .dialect_bind (.mapError ?_ _)
  rw [m.change_eq_ofPairs]
  by_cases hnil : Entries.ofPairs (assigned key values) = []
  · rw [hnil]
    refine .of_runOn_self (Update.runOn_execute_of_error ?_ rfl c)
    exact Dialect.checkOffset_of_mem _ fun _ => rfl
  by_cases hdialect : c.dialect = .msSql
  · have hexecute := runOn_change_msSql m c hkey hnil hdialect
    cases hnames : c.identityNames (identityQuery m.tableRef) with
    | error e =>
      rw [hnames] at hexecute
      exact .of_runOn hexecute (by simp [isQuery_identityQuery])
    | ok names =>
      rw [hnames] at hexecute
      dsimp only at hexecute
      obtain ⟨sqls, hlogged, hsqls⟩ := (c.logged [identityQuery m.tableRef]).executed_eq
        (if assignable names (Entries.ofPairs (assigned key values)) = [] then
          refuse .onlyIdentityColumns
        else .ok (m.changeText c.dialect key
          (assignable names (Entries.ofPairs (assigned key values)))))
      refine ⟨identityQuery m.tableRef :: sqls, ?_, ?_⟩
      · rw [hexecute, hlogged, Connection.logged_logged]
        rfl
      · refine List.forall_mem_cons.2 ⟨Or.inl (isQuery_identityQuery _), fun sql hsql => ?_⟩
        have hstatement := hsqls sql hsql
        split at hstatement
        · cases hstatement
        · next hleft =>
          exact Or.inr ⟨key, _, hleft, (Except.ok.inj hstatement).symm, fun cell hcell =>
            hcells cell (List.mem_filter.1 hcell).1⟩
  · refine .of_runOn (runOn_change m c hkey hnil hdialect) fun sql hsql => ?_
    rw [List.mem_singleton.1 hsql]
    exact Or.inr ⟨key, _, hnil, rfl, hcells⟩

/-- A key that an object has is present. -/
theorem isNull_of_presentKey {fault : ValueFault} {key : OwnRow}
    (h : m.presentKey supplied fault = .ok key) : key.2.isNull = false := by
  cases hpk : m.fields.find? fun f => f.options.primaryKey with
  | none =>
    rw [presentKey_of_none hpk] at h
    cases h
  | some pk =>
    rw [presentKey_of_some hpk] at h
    split at h
    · cases h
    · next hpresent =>
      rw [← Except.ok.inj h]
      exact Bool.eq_false_iff.2 hpresent

/-- **What a model writes was accepted by its fields.**  On any connection, every statement that
inserting an object sends is a query, or it inserts a row of filled cells; and every statement that
updating it sends is a query, or it assigns filled cells. -/
theorem writes_accepted_values (m : Model α) (clock : Clock) (supplied : Supplied)
    (c : Connection) :
    (m.insert clock supplied).SendsOnly
        (fun sql => IsQuery sql ∨ m.InsertsFilled clock supplied c.dialect sql) c ∧
      (m.update clock supplied).SendsOnly
        (fun sql => IsQuery sql ∨ m.AssignsFilled clock supplied c.dialect sql) c := by
  constructor
  · rw [insert_eq_checkedWrite]
    refine sendsOnly_checkedWrite (by simp) (fun _ => Or.inl) fun values hresolve sqls => ?_
    have hcells := fills_of_resolve hresolve c.dialect
    exact (sendsOnly_writeRow (c := c.logged sqls) hcells).mono fun _ => Or.inr
  · refine .bind (.of_runOn_self (Exchange.runOn_ofResult _ c)) fun key sqls hkey => ?_
    have hpresent := isNull_of_presentKey (congrArg Prod.fst hkey)
    have hown : ∀ own ∈ some key, own.2.isNull = false := by
      rintro own ⟨⟩
      exact hpresent
    refine sendsOnly_checkedWrite hown (fun _ => Or.inl) fun values hresolve sqls' => ?_
    rw [Connection.logged_logged]
    exact sendsOnly_writeChange hpresent (fills_of_resolve hresolve c.dialect)

/-- A table of notes: a label, a remark that may be absent, and the time of insertion. -/
def notes : Model Unit :=
  ⟨"notes", [⟨"label", .char 20 none, .ofList []⟩, ⟨"remark", .text, .ofList [.null true]⟩,
    ⟨"noted", .dateTime false true, .ofList []⟩], fun _ => .ok ()⟩

/-- The time at which a note is inserted. -/
def noting : Timestamp := ⟨⟨2024, 2, 29, 8, 30, 0, 0⟩, by decide⟩

-- A label that reads like a keyword is written as a text, and the absent remark as the keyword.
example :
    ((notes.insert (fun _ => noting) [("label", .text "NULL")]).runOn (.ofDialect .oracle)).2.log
      = ["INSERT INTO \"notes\" (\"label\", \"remark\", \"noted\") VALUES ('NULL', NULL, "
        ++ "TO_TIMESTAMP('2024-02-29 08:30:00', 'YYYY-MM-DD HH24:MI:SS'))"] := by
  decide +kernel

end Model

end SqlBuilder
