import SqlBuilder.Insert
import SqlBuilder.Proofs.Parallel.Entries
import SqlBuilder.Proofs.Parallel.Predicates

/-! # Parallel INSERTs

Two INSERTs are alike if they have the same table and columns and alike rows.  Then both are refused
or both have parallel texts: alike rows are aligned to the same columns, and a missing cell is
`NULL` in both. -/

namespace SqlBuilder

variable {d : Dialect} {P : String → String → Prop}

/-- **Two INSERTs of alike rows** into the same columns of the same table. -/
structure InsertData.Alike (d : Dialect) (P : String → String → Prop) (data data' : InsertData) :
    Prop where
  /-- The table is the same. -/
  target : data.target = data'.target
  /-- The declared columns are the same. -/
  columns : data.columns = data'.columns
  /-- The rows are alike. -/
  rows : List.Forall₂ (RowAlike d P) data.rows data'.rows

namespace InsertData

variable {data data' : InsertData}

/-- Alike INSERTs have the same columns. -/
theorem Alike.columnList_eq (h : data.Alike d P data') : data'.columnList = data.columnList := by
  have hkeys : data'.rows.flatMap Entries.keys = data.rows.flatMap Entries.keys := by
    have hrows := h.rows
    generalize data.rows = rows at hrows
    generalize data'.rows = rows' at hrows
    induction hrows with
    | nil => rfl
    | cons hrow _ ih => rw [List.flatMap_cons, List.flatMap_cons, hrow.keys_eq, ih]
  rw [columnList, columnList, hkeys, h.columns]

/-- Aligned alike rows have parallel texts. -/
theorem parallel_rowText (columns : List String) {row row' : InsertRow}
    (h : RowAlike d P row row') :
    Parallel d P (rowText (aligned columns row)) (rowText (aligned columns row')) := by
  have hcells : List.Forall₂ (Parallel d P) (aligned columns row) (aligned columns row') := by
    rw [aligned, aligned, List.forall₂_map_left_iff, List.forall₂_map_right_iff, List.forall₂_same]
    -- A cell that is missing in one row is missing in the other, and is `NULL` in both.
    exact fun column _ => h.find_getD column (by decide)
  exact ((Parallel.intercalate (by decide) (by decide) hcells).plain_append
    (by decide)).append_plain (by decide)

/-- The rows of alike INSERTs have parallel texts. -/
theorem Alike.rowTexts (h : data.Alike d P data') :
    List.Forall₂ (Parallel d P) (data.alignedRows.map rowText) (data'.alignedRows.map rowText) := by
  rw [alignedRows, alignedRows, h.columnList_eq, List.map_map, List.map_map,
    List.forall₂_map_left_iff, List.forall₂_map_right_iff]
  exact h.rows.imp fun _ _ hrow => parallel_rowText data.columnList hrow

/-- The declared columns have a steady text. -/
theorem parallel_columnText (data : InsertData) :
    Parallel d P (data.columnText d) (data.columnText d) := by
  refine .intercalate (by decide) (by decide) (List.forall₂_same.2 fun s hs => ?_)
  obtain ⟨name, -, rfl⟩ := List.mem_map.1 hs
  exact parallel_identifier name

/-- Alike INSERTs write the same columns. -/
theorem Alike.columnText_eq (h : data.Alike d P data') :
    data'.columnText d = data.columnText d := by
  rw [columnText, columnText, h.columnList_eq]

/-- The form with one VALUES list. -/
theorem Alike.valuesForm (h : data.Alike d P data') (t : TableRef) :
    Parallel d P (data.valuesForm d t) (data'.valuesForm d t) := by
  have htarget := ((parallel_tableRef (d := d) (P := P) t).plain_append
    (p := "INSERT INTO ") (by decide)).glue (p := " (") (by decide) (by decide)
    (parallel_columnText data)
  have hrows := Parallel.intercalate (p := ", ") (by decide) (by decide) h.rowTexts
  show Parallel d P _ ("INSERT INTO " ++ t.render d ++ " (" ++ data'.columnText d ++ ") VALUES "
    ++ ", ".intercalate (data'.alignedRows.map rowText))
  rw [h.columnText_eq]
  exact htarget.glue (by decide) (by decide) hrows

/-- The form that repeats the INTO part for every row. -/
theorem Alike.allForm (h : data.Alike d P data') (t : TableRef) :
    Parallel d P (data.allForm d t) (data'.allForm d t) := by
  have htarget := (ParallelClause.plain_append (p := " INTO ") (by decide) (by decide)
    (parallel_tableRef (d := d) (P := P) t)).glue (p := " (") (by decide) (by decide)
    (parallel_columnText data)
  -- The blank in front of `INTO` makes every part a clause.
  have hparts : List.Forall₂ (ParallelClause d P)
      (data.alignedRows.map fun cells =>
        " INTO " ++ t.render d ++ " (" ++ data.columnText d ++ ") VALUES " ++ rowText cells)
      (data'.alignedRows.map fun cells =>
        " INTO " ++ t.render d ++ " (" ++ data.columnText d ++ ") VALUES " ++ rowText cells) := by
    have hrows := h.rowTexts
    rw [List.forall₂_map_left_iff, List.forall₂_map_right_iff] at hrows ⊢
    exact hrows.imp fun _ _ hrow => htarget.glue (by decide) (by decide) hrow
  rw [InsertData.allForm, InsertData.allForm, h.columnText_eq]
  exact ((ParallelClause.join hparts).parallel.plain_append (by decide)).append_plain (by decide)

/-- **Alike INSERTs fail for the same reason or have parallel texts.** -/
theorem Alike.render (h : data.Alike d P data') :
    ResultAlike (Parallel d P) (data.render d) (data'.render d) := by
  have hcheck : data'.checkedTarget = data.checkedTarget := by
    rw [checkedTarget, checkedTarget, h.target, isEmpty_eq_of_forall₂ h.rows, h.columnList_eq]
  have hform : data'.usesAllForm d = data.usesAllForm d := by
    cases d <;> simp [usesAllForm, h.rows.length_eq]
  rw [InsertData.render, InsertData.render, hcheck, hform]
  cases data.checkedTarget with
  | error e => exact .error e
  | ok t =>
    refine .ok ?_
    cases data.usesAllForm d
    · exact h.valuesForm t
    · exact h.allForm t

end InsertData

end SqlBuilder
