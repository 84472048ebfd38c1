import SqlBuilder.Proofs.Acceptance
import SqlBuilder.Proofs.EntriesOrder

/-! # Where the cells of an INSERT go

Builder calls give an INSERT names of columns and rows of cells, in any order and with repetitions
(`GivenInsert`).  The statement has every column once, the declared ones first, and one cell for
each column in each row: the last value given for it there, or `NULL`
(`Insert.every_cell_has_its_place`). -/

namespace SqlBuilder

/-! ## What calls give -/

/-- Names of columns and rows of cells as they were given, repetitions included. -/
structure GivenInsert where
  /-- The declared columns. -/
  declared : List String
  /-- The rows that were started, with their cells. -/
  rows : List (List (String × Value))

namespace GivenInsert

/-- What is given after one more call.  A value goes to the last row, or starts the first one. -/
def after (g : GivenInsert) : InsertStep → GivenInsert
  | .into _ => g
  | .columns names => ⟨g.declared ++ names, g.rows⟩
  | .value column v => ⟨g.declared, g.rows.dropLast ++ [(g.rows.getLast?).getD [] ++ [(column, v)]]⟩
  | .row cells => ⟨g.declared, g.rows ++ [cells]⟩
  | .nextRow => ⟨g.declared, g.rows ++ [[]]⟩
  | .reset => ⟨[], []⟩

/-- **What a sequence of calls gives.** -/
def ofSteps (steps : List InsertStep) : GivenInsert := steps.foldl after ⟨[], []⟩

/-- The columns that cells were given for, row by row. -/
def used (g : GivenInsert) : List String := g.rows.flatMap fun row => row.map Prod.fst

/-- The cell of a column in a row: the last value given for it, or `NULL`. -/
def cell (d : Dialect) (row : List (String × Value)) (column : String) : String :=
  ((Entries.lastValue column row).map d.literal).getD "NULL"

/-- A row with its values in SQL. -/
def written (d : Dialect) (row : List (String × Value)) : InsertRow :=
  Entries.ofPairs (row.map fun cell => (cell.1, d.literal cell.2))

end GivenInsert

/-! ## What the builder keeps -/

namespace InsertData

/-- A name is in a list of columns after names were added iff it was there or is one of them. -/
theorem mem_foldl_addColumn (columns names : List String) (name : String) :
    name ∈ names.foldl addColumn columns ↔ name ∈ columns ∨ name ∈ names := by
  induction names generalizing columns with
  | nil => simp
  | cons first rest ih =>
    rw [List.foldl_cons, ih, addColumn]
    by_cases h : first ∈ columns
    · simp only [List.contains_eq_mem, h, decide_true, if_true, List.mem_cons]
      constructor
      · tauto
      · rintro (hc | rfl | hr)
        · exact Or.inl hc
        · exact Or.inl h
        · exact Or.inr hr
    · simp [h, or_assoc]

/-- Adding names to distinct columns keeps first occurrences. -/
theorem foldl_addColumn_eraseDups (columns names : List String) :
    names.foldl addColumn columns.eraseDups = (columns ++ names).eraseDups := by
  induction names using List.reverseRecOn with
  | nil => simp
  | append_singleton names name ih =>
    rw [List.foldl_append, List.foldl_cons, List.foldl_nil, ih, ← List.append_assoc,
      eraseDups_concat, addColumn]
    by_cases h : name ∈ columns ++ names <;> simp [h]

/-- Names that occur again may be left out before they are added. -/
theorem foldl_addColumn_of_eraseDups (columns names : List String) :
    names.eraseDups.foldl addColumn columns = names.foldl addColumn columns := by
  induction names using List.reverseRecOn with
  | nil => rfl
  | append_singleton names name ih =>
    rw [eraseDups_concat, List.foldl_append, List.foldl_cons, List.foldl_nil]
    split
    · next h =>
      have hmem : name ∈ names.foldl addColumn columns :=
        (mem_foldl_addColumn columns names name).2 (Or.inr h)
      rw [ih, addColumn, if_pos (by simpa using hmem)]
    · rw [List.foldl_append, ih]
      rfl

end InsertData

/-- **An INSERT keeps what calls gave it**: each declared column once, and each row with the last
value of each of its columns. -/
structure Insert.Keeps (d : Dialect) (s : Insert) (g : GivenInsert) : Prop where
  /-- It stays in the dialect. -/
  dialect : s.dialect = d
  /-- The declared columns are kept in the order in which they first came. -/
  columns : s.data.columns = g.declared.eraseDups
  /-- The rows are kept with their cells. -/
  rows : s.data.rows = g.rows.map (GivenInsert.written d)

namespace Insert

variable {d : Dialect} {s : Insert} {g : GivenInsert}

/-- Declaring columns adds them one by one. -/
theorem columns_eq (s : Insert) (names : List String) :
    s.columns names
      = ⟨s.dialect,
        { s.data with columns := names.foldl InsertData.addColumn s.data.columns }⟩ := by
  induction names generalizing s with
  | nil => rfl
  | cons name rest ih => exact ih (s.column name)

/-- A value goes to the last row. -/
theorem Keeps.value (h : s.Keeps d g) (column : String) (v : Value) :
    (s.value column v).Keeps d (g.after (.value column v)) := by
  obtain ⟨hdialect, hcolumns, hrows⟩ := h
  refine ⟨hdialect, hcolumns, ?_⟩
  rw [Insert.value, GivenInsert.after, hrows, hdialect]
  rcases List.eq_nil_or_concat g.rows with hnil | ⟨init, last, hconcat⟩
  · simp [hnil, GivenInsert.written, Entries.ofPairs]
  · simp [hconcat, GivenInsert.written, Entries.ofPairs_concat]

/-- **Each call keeps what it gives.** -/
theorem Keeps.apply (h : s.Keeps d g) (step : InsertStep) :
    (s.apply step).Keeps d (g.after step) := by
  cases step with
  | value column v => exact h.value column v
  | into table => exact ⟨h.dialect, h.columns, h.rows⟩
  | columns names =>
    rw [Insert.apply, columns_eq]
    refine ⟨h.dialect, ?_, h.rows⟩
    dsimp only
    rw [h.columns, InsertData.foldl_addColumn_eraseDups]
    rfl
  | row cells =>
    refine ⟨h.dialect, h.columns, ?_⟩
    simp [Insert.apply, Insert.row, GivenInsert.after, h.rows, h.dialect, GivenInsert.written]
  | nextRow =>
    refine ⟨h.dialect, h.columns, ?_⟩
    simp [Insert.apply, Insert.nextRow, GivenInsert.after, h.rows, GivenInsert.written,
      Entries.ofPairs]
  | reset => exact ⟨h.dialect, rfl, rfl⟩

/-- **A sequence of calls keeps all that they give.** -/
theorem keeps_run (d : Dialect) (steps : List InsertStep) :
    ((new d).run steps).Keeps d (.ofSteps steps) := by
  induction steps using List.reverseRecOn with
  | nil => exact ⟨rfl, rfl, rfl⟩
  | append_singleton steps step ih =>
    rw [run, GivenInsert.ofSteps, List.foldl_append, List.foldl_append]
    exact ih.apply step

end Insert

/-! ## Columns and cells of the statement -/

namespace Insert

variable {d : Dialect} {s : Insert} {g : GivenInsert}

/-- **The columns of the statement** are the first occurrences of declared and used columns. -/
theorem Keeps.columnList (h : s.Keeps d g) :
    s.data.columnList = (g.declared ++ g.used).eraseDups := by
  rw [InsertData.columnList, h.columns, h.rows, GivenInsert.used,
    ← InsertData.foldl_addColumn_eraseDups, List.foldl_flatMap, List.foldl_flatMap, List.foldl_map]
  congr 1
  funext columns row
  rw [GivenInsert.written, Entries.keys_ofPairs, InsertData.foldl_addColumn_of_eraseDups]
  simp [Function.comp_def]

/-- **The rows of the statement** have the cell of each column in its place. -/
theorem Keeps.alignedRows (h : s.Keeps d g) :
    s.data.alignedRows
      = g.rows.map fun row => s.data.columnList.map (GivenInsert.cell d row) := by
  have hcell : ∀ (row : List (String × Value)) (column : String),
      ((GivenInsert.written d row).find column).getD "NULL" = GivenInsert.cell d row column := by
    intro row column
    rw [GivenInsert.written, Entries.find_ofPairs, Entries.lastValue_map, GivenInsert.cell]
  rw [InsertData.alignedRows, h.rows, List.map_map]
  refine List.map_congr_left fun row _ => ?_
  exact List.map_congr_left fun column _ => hcell row column

/-- A statement has a text iff it has a target, a row and a column. -/
theorem Keeps.exists_statement_iff (h : s.Keeps d g) :
    (∃ sql, s.statement false = .ok sql) ↔
      s.data.target ≠ none ∧ g.rows ≠ [] ∧ s.data.columnList ≠ [] := by
  have hsucceeds := (InsertData.succeedsIff_render s.dialect s.data).map
    fun sql => terminate sql false
  rw [statement, hsucceeds.exists_eq_ok_iff, InsertData.IsComplete, h.rows,
    InsertData.columnList_ne_nil_iff, h.rows]
  simp

/-- The text of an INSERT of rows into columns of a table: the columns stand in front of all rows, or
in front of each of several rows where the dialect needs that. -/
def textOfRows (d : Dialect) (table columns : String) (rows : List String) : String :=
  let target := " INTO " ++ table ++ " (" ++ columns ++ ") VALUES "
  if d = .oracle ∧ 2 ≤ rows.length then
    "INSERT ALL" ++ String.join (rows.map (target ++ ·)) ++ " SELECT * FROM dual"
  else "INSERT" ++ target ++ ", ".intercalate rows

/-- **The text of the statement** has the aligned rows, each in parentheses, for the column list. -/
theorem Keeps.text_of_statement (h : s.Keeps d g) {sql : String}
    (hsql : s.statement false = .ok sql) :
    ∃ t, s.data.target = some t ∧
      sql = textOfRows d (t.render d) (", ".intercalate (s.data.columnList.map d.identifier))
        (s.data.alignedRows.map fun cells => "(" ++ ", ".intercalate cells ++ ")") := by
  have hne : g.rows ≠ [] := (h.exists_statement_iff.1 ⟨sql, hsql⟩).2.1
  rw [statement, h.dialect, InsertData.render] at hsql
  cases htarget : s.data.checkedTarget with
  | error e => simp [htarget, Except.map] at hsql
  | ok t =>
    refine ⟨t, ?_, ?_⟩
    · rw [InsertData.checkedTarget] at htarget
      cases hs : s.data.target with
      | none => simp [hs, refuse] at htarget
      | some t' =>
        rw [hs] at htarget
        dsimp only at htarget
        split at htarget
        · cases htarget
        · rw [Except.ok.inj htarget]
    · -- There is a row, so the number of rows is not one exactly if it is two or more.
      have hform : s.data.usesAllForm d = true ↔ d = .oracle ∧ 2 ≤ s.data.alignedRows.length := by
        have hpos : 0 < g.rows.length := List.length_pos_iff.2 hne
        cases d <;> simp [InsertData.usesAllForm, InsertData.alignedRows, h.rows]
        omega
      rw [htarget] at hsql
      obtain rfl := Except.ok.inj hsql
      simp only [hform, textOfRows, List.length_map]
      split
      · simp only [InsertData.allForm, List.map_map]
        rfl
      · rfl

/-- **An INSERT loses, duplicates and misplaces no cell.**  Every column stands once: the declared
ones as they first came, then the others as they were first used.  Every row that was started is
there, with one cell for each column: the last value given for it in that row, or `NULL`.  The
statement has a text if there are a target, a row and a column; the text carries the column list and
each of these rows once, in order, and the one dialect that repeats the INTO part for several rows
repeats the same column list in it. -/
theorem every_cell_has_its_place (d : Dialect) (steps : List InsertStep) :
    let s := (new d).run steps
    let g := GivenInsert.ofSteps steps
    s.data.columnList.Nodup ∧
    s.data.columnList = g.declared.eraseDups ++ (g.used.removeAll g.declared).eraseDups ∧
    s.data.alignedRows = g.rows.map (fun row => s.data.columnList.map (GivenInsert.cell d row)) ∧
    ((∃ sql, s.statement false = .ok sql) ↔
      s.data.target ≠ none ∧ g.rows ≠ [] ∧ s.data.columnList ≠ []) ∧
    ∀ sql, s.statement false = .ok sql → ∃ t, s.data.target = some t ∧
      sql = textOfRows d (t.render d) (", ".intercalate (s.data.columnList.map d.identifier))
        (s.data.alignedRows.map fun cells => "(" ++ ", ".intercalate cells ++ ")") := by
  intro s g
  have hkeeps : s.Keeps d g := keeps_run d steps
  refine ⟨?_, ?_, hkeeps.alignedRows, hkeeps.exists_statement_iff,
    fun sql hsql => hkeeps.text_of_statement hsql⟩
  · rw [hkeeps.columnList]
    exact nodup_eraseDups _
  · rw [hkeeps.columnList, List.eraseDups_append]

/-- Three rows: one that gives a column twice, one without cells, and one that comes as a whole and
uses a column that no other has. -/
def raggedSteps : List InsertStep :=
  [.into "t", .columns ["b", "a", "b"], .value "a" (.int 1), .value "c" (.text "x"),
    .value "a" (.int 2), .nextRow, .row [("d", .null), ("b", .bool true)]]

/-- The text of the three rows in the dialect that repeats the INTO part. -/
def raggedText : String :=
  "INSERT ALL INTO \"t\" (\"b\", \"a\", \"c\", \"d\") VALUES (NULL, 2, 'x', NULL)"
    ++ " INTO \"t\" (\"b\", \"a\", \"c\", \"d\") VALUES (NULL, NULL, NULL, NULL)"
    ++ " INTO \"t\" (\"b\", \"a\", \"c\", \"d\") VALUES (1, NULL, NULL, NULL) SELECT * FROM dual"

/-- Every cell of the three rows has its place. -/
theorem every_cell_of_raggedSteps :
    ((new .oracle).run raggedSteps).statement false = .ok raggedText ∧
    ((new .oracle).run raggedSteps).data.columnList = ["b", "a", "c", "d"] ∧
    ∃ t, ((new .oracle).run raggedSteps).data.target = some t ∧
      raggedText = textOfRows .oracle (t.render .oracle) "\"b\", \"a\", \"c\", \"d\""
        ["(NULL, 2, 'x', NULL)", "(NULL, NULL, NULL, NULL)", "(1, NULL, NULL, NULL)"] := by
  have hsql : ((new .oracle).run raggedSteps).statement false = .ok raggedText := by decide +kernel
  obtain ⟨-, hcolumns, -, -, htext⟩ := every_cell_has_its_place .oracle raggedSteps
  obtain ⟨t, ht, hraggedText⟩ := htext raggedText hsql
  have hlist : ", ".intercalate (((new .oracle).run raggedSteps).data.columnList.map
      Dialect.oracle.identifier) = "\"b\", \"a\", \"c\", \"d\"" := by decide +kernel
  have hrows : ((new .oracle).run raggedSteps).data.alignedRows.map (fun cells =>
      "(" ++ ", ".intercalate cells ++ ")")
        = ["(NULL, 2, 'x', NULL)", "(NULL, NULL, NULL, NULL)", "(1, NULL, NULL, NULL)"] := by
    decide +kernel
  rw [hlist, hrows] at hraggedText
  exact ⟨hsql, hcolumns.trans (by decide +kernel), t, ht, hraggedText⟩

end Insert

end SqlBuilder
