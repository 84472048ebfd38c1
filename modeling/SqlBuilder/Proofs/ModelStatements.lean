import SqlBuilder.Model.Changes
import SqlBuilder.Proofs.Combination
import SqlBuilder.Proofs.InsertedCells

/-! # The statements of models

A model sends statements of four forms: it counts the rows with a value, and it inserts, updates and
deletes a row.  None of them has an order or bounds, so their texts are alike in all dialects up to
names and literals. -/

namespace SqlBuilder

/-! ## Statements without order and bounds -/

namespace Dialect

variable (d : Dialect)

/-- Without bounds there is no paging. -/
theorem selectPaging_zero :
    (d.selectPaging 0 0).beforeDistinct = "" ∧ (d.selectPaging 0 0).afterDistinct = "" ∧
      (d.selectPaging 0 0).orderFiller = "" ∧ (d.selectPaging 0 0).trailing = "" := by
  cases d <;> decide

/-- Without bounds there is no window. -/
theorem window_zero (sql : String) : d.window 0 0 sql = sql := by cases d <;> rfl

/-- The operator between a column and a literal stands between blanks. -/
theorem comparison_of_present (column : String) {op : Operator} (hop : op = .equal ∨ op = .notEqual)
    {v : Value} (hv : v.isNull = false) :
    d.comparison column op v = d.identifier column ++ " " ++ op.keyword ++ " " ++ d.literal v := by
  rcases hop with rfl | rfl
  all_goals
    cases v
    case null => cases hv
    all_goals rfl

/-- A column compared for equality with a value that is present. -/
theorem comparison_equal (column : String) {v : Value} (h : v.isNull = false) :
    d.comparison column .equal v = d.identifier column ++ " = " ++ d.literal v := by
  rw [d.comparison_of_present column (Or.inl rfl) h]
  simp only [String.append_assoc]
  rfl

/-- A column compared for difference with a value that is present. -/
theorem comparison_notEqual (column : String) {v : Value} (h : v.isNull = false) :
    d.comparison column .notEqual v = d.identifier column ++ " <> " ++ d.literal v := by
  rw [d.comparison_of_present column (Or.inr rfl) h]
  simp only [String.append_assoc]
  rfl

end Dialect

namespace Predicates

/-- A list with a predicate is not empty. -/
@[simp] theorem isEmpty_push (p : Predicates) (c : Connector) (sql : String) :
    (p.push c sql).isEmpty = false := by
  simp [isEmpty, push]

/-- The text of one predicate. -/
theorem render_push (c : Connector) (sql : String) : (empty.push c sql).render = .ok sql := by
  have hrender : (empty.push c sql).render = .ok (String.join [sql]) := rfl
  rw [hrender]
  simp

/-- The text of two predicates. -/
theorem render_push_push (c : Connector) (sql sql' : String) :
    ((empty.push c sql).push .and sql').render = .ok (sql ++ " AND " ++ sql') := by
  have hrender : ((empty.push c sql).push .and sql').render
      = .ok (String.join [sql, " AND " ++ sql']) := rfl
  rw [hrender]
  simp [String.append_assoc]

end Predicates

/-- A query for the rows of a table with some predicates. -/
theorem RowScope.selection_unbounded {p : Predicates} (hp : p.isEmpty = false) (d : Dialect)
    (columns : String) (t : TableRef) :
    RowScope.selection ⟨p, [], 0, 0⟩ d columns t = p.render.map fun sql =>
      "SELECT " ++ columns ++ " FROM " ++ t.render d ++ " WHERE " ++ sql := by
  obtain ⟨hbefore, hafter, hfiller, htrailing⟩ := d.selectPaging_zero
  rw [selection, Predicates.whereClause, Predicates.clause, if_neg (by simp [hp])]
  cases p.render with
  | error e => rfl
  | ok sql =>
    refine congrArg Except.ok ?_
    simp [d.window_zero, hbefore, hafter, hfiller, htrailing, orderClause, String.append_assoc]

/-- A change of the rows of a table with some predicates. -/
theorem Change.render_unbounded {p : Predicates} (hp : p.isEmpty = false) (change : Change)
    (d : Dialect) (t : TableRef) :
    change.render d t ⟨p, [], 0, 0⟩
      = p.render.map fun sql => change.over (t.render d) ++ " WHERE " ++ sql := by
  have hkeeps := change.keepsFilter_unbounded d t p
  simpa [hp] using hkeeps

/-! ## The texts -/

namespace Model

variable {α : Type} (m : Model α) (d : Dialect)

/-- The condition that leaves out the row with a key, if there is one. -/
def exceptOwn : Option OwnRow → String
  | some key => " AND " ++ d.identifier key.1 ++ " <> " ++ d.literal key.2
  | none => ""

/-- The text of the query for the number of rows that have a value in a column, the row with a key
left out. -/
def duplicateText (own : Option OwnRow) (check : String × Value) : String :=
  "SELECT COUNT(*) AS " ++ d.aliasName "count" ++ " FROM " ++ d.identifier m.table ++ " WHERE "
    ++ d.identifier check.1 ++ " = " ++ d.literal check.2 ++ exceptOwn d own

/-- The text of the INSERT of a row. -/
def insertionText (row : List (String × Value)) : String :=
  "INSERT INTO " ++ d.identifier m.table ++ " ("
    ++ ", ".intercalate (row.map fun v => d.identifier v.1) ++ ") VALUES ("
    ++ ", ".intercalate (row.map fun v => d.literal v.2) ++ ")"

/-- The text of the UPDATE of the row with a key. -/
def changeText (key : OwnRow) (assigned : List (String × Value)) : String :=
  "UPDATE " ++ d.identifier m.table ++ " SET "
    ++ ", ".intercalate (assigned.map fun v => d.identifier v.1 ++ " = " ++ d.literal v.2)
    ++ " WHERE " ++ d.identifier key.1 ++ " = " ++ d.literal key.2

/-- The text of the DELETE of the row with a key. -/
def removalText (key : OwnRow) : String :=
  "DELETE FROM " ++ d.identifier m.table ++ " WHERE " ++ d.identifier key.1 ++ " = "
    ++ d.literal key.2

variable {d}

/-- A query for the number of rows with some predicates. -/
theorem statement_countQuery (s : Select) (hdialect : s.dialect = d) (hmisuse : s.misuse = none)
    {p : Predicates} (hp : p.isEmpty = false)
    (hquery : s.query = (RowScope.mk p [] 0 0).query ["COUNT(*) AS " ++ d.aliasName "count"]
      (m.tableRef.render d)) :
    s.statement false = p.render.map fun sql =>
      "SELECT COUNT(*) AS " ++ d.aliasName "count" ++ " FROM " ++ d.identifier m.table ++ " WHERE "
        ++ sql := by
  have hcolumns := RowScope.selection_eq_render ⟨p, [], 0, 0⟩ d
    ["COUNT(*) AS " ++ d.aliasName "count"] m.tableRef
  have hopening : "SELECT COUNT(*) AS " = "SELECT " ++ "COUNT(*) AS " := rfl
  rw [Select.statement_of_misuse_eq_none hmisuse, hquery, hdialect, ← hcolumns,
    RowScope.selection_unbounded hp]
  cases p.render with
  | error e => rfl
  | ok sql =>
    simp only [hopening, Except.map, tableRef, TableRef.render, List.isEmpty_cons,
      Bool.false_eq_true, if_false, String.intercalate_singleton, String.append_assoc]

/-- The query for rows with a value is in its dialect. -/
@[simp] theorem dialect_duplicateQuery (column : String) (v : Value) (own : Option OwnRow) :
    (m.duplicateQuery d column v own).dialect = d := by
  cases own <;> rfl

/-- The query for rows with a value remembers no fault. -/
@[simp] theorem misuse_duplicateQuery (column : String) (v : Value) (own : Option OwnRow) :
    (m.duplicateQuery d column v own).misuse = none := by
  cases own <;> rfl

/-- The query for rows with a value. -/
theorem query_duplicateQuery (column : String) (v : Value) :
    (m.duplicateQuery d column v none).query
      = (RowScope.mk (Predicates.empty.push .and (d.comparison column .equal v)) [] 0 0).query
        ["COUNT(*) AS " ++ d.aliasName "count"] (m.tableRef.render d) := rfl

/-- The query for other rows with a value. -/
theorem query_duplicateQuery_some (column : String) (v : Value) (key : OwnRow) :
    (m.duplicateQuery d column v (some key)).query
      = (RowScope.mk ((Predicates.empty.push .and (d.comparison column .equal v)).push .and
          (d.comparison key.1 .notEqual key.2)) [] 0 0).query
        ["COUNT(*) AS " ++ d.aliasName "count"] (m.tableRef.render d) := rfl

/-- **The query for rows with a value** that is present. -/
theorem statement_duplicateQuery {check : String × Value} (hcheck : check.2.isNull = false)
    {own : Option OwnRow} (hown : ∀ key ∈ own, key.2.isNull = false) :
    (m.duplicateQuery d check.1 check.2 own).statement false
      = .ok (m.duplicateText d own check) := by
  have hequal := d.comparison_equal check.1 hcheck
  cases own with
  | none =>
    have hstatement := m.statement_countQuery _ (m.dialect_duplicateQuery _ _ _)
      (m.misuse_duplicateQuery _ _ _) (Predicates.isEmpty_push _ _ _)
      (m.query_duplicateQuery (d := d) check.1 check.2)
    rw [hstatement, Predicates.render_push, hequal]
    refine congrArg Except.ok ?_
    unfold duplicateText exceptOwn
    simp only [String.append_assoc, String.append_empty]
  | some key =>
    have hdifferent := d.comparison_notEqual key.1 (hown key rfl)
    have hstatement := m.statement_countQuery _ (m.dialect_duplicateQuery _ _ _)
      (m.misuse_duplicateQuery _ _ _) (Predicates.isEmpty_push _ _ _)
      (m.query_duplicateQuery_some (d := d) check.1 check.2 key)
    rw [hstatement, Predicates.render_push_push, hequal, hdifferent]
    refine congrArg Except.ok ?_
    unfold duplicateText exceptOwn
    simp only [String.append_assoc]

/-! ## The INSERT of one row -/

/-- The INSERT keeps the columns of the row and the row itself. -/
theorem keeps_insertion (row : List (String × Value)) :
    (m.insertion d row).Keeps d ⟨row.map Prod.fst, [row]⟩ :=
  Insert.keeps_run d [.into m.table, .columns (row.map Prod.fst), .row row]

/-- The INSERT goes into the table of the model. -/
theorem target_insertion (row : List (String × Value)) :
    (m.insertion d row).data.target = some m.tableRef := by
  simp [insertion, Insert.row, Insert.columns_eq, Insert.into, tableRef]

/-- Columns that occur again may be put together before the INSERT is built. -/
theorem insertion_ofPairs (row : List (String × Value)) :
    m.insertion d (Entries.ofPairs row) = m.insertion d row := by
  have hkeys : (Entries.ofPairs row).map Prod.fst = (row.map Prod.fst).eraseDups :=
    Entries.keys_ofPairs row
  -- Columns are added once in any case, and the last value of a column counts in any case.
  have hcells : Entries.ofPairs ((Entries.ofPairs row).map fun v => (v.1, d.literal v.2))
      = Entries.ofPairs (row.map fun v => (v.1, d.literal v.2)) := by
    rw [Entries.ofPairs_map, Entries.ofPairs_map,
      Entries.ofPairs_of_nodup (Entries.nodup_ofPairs row)]
  rw [insertion, insertion, hkeys, Insert.columns_eq, Insert.columns_eq,
    InsertData.foldl_addColumn_of_eraseDups]
  unfold Insert.row
  exact congrArg (fun cells => Insert.mk d ⟨some ⟨m.table, none⟩, _, [] ++ [cells]⟩) hcells

/-- The INSERT has the columns of the row if these are distinct. -/
theorem columnList_insertion {row : List (String × Value)} (hrow : (row.map Prod.fst).Nodup) :
    (m.insertion d row).data.columnList = row.map Prod.fst := by
  have hused : GivenInsert.used ⟨row.map Prod.fst, [row]⟩ = row.map Prod.fst := by
    simp [GivenInsert.used]
  have hnothing : (row.map Prod.fst).removeAll (row.map Prod.fst) = [] := by
    simp [List.removeAll, List.filter_eq_nil_iff]
  rw [(m.keeps_insertion row).columnList, hused, List.eraseDups_append, eraseDups_of_nodup hrow,
    hnothing, List.eraseDups_nil, List.append_nil]

/-- A row with distinct columns has the literals of its values as cells. -/
theorem map_cell_of_nodup {row : List (String × Value)} (hrow : (row.map Prod.fst).Nodup) :
    row.map (fun v => GivenInsert.cell d row v.1) = row.map fun v => d.literal v.2 := by
  refine List.map_congr_left fun v hv => ?_
  rw [GivenInsert.cell, Entries.lastValue_of_mem hrow hv]
  rfl

/-- **The INSERT of a row** with distinct columns: refused if there are none. -/
theorem statement_insertion {row : List (String × Value)} (hrow : (row.map Prod.fst).Nodup) :
    (m.insertion d row).statement false
      = if row = [] then refuse .insertWithoutValues else .ok (m.insertionText d row) := by
  have hkeeps := m.keeps_insertion (d := d) row
  have hcolumns := m.columnList_insertion (d := d) hrow
  have htarget := m.target_insertion (d := d) row
  split
  · next hnil =>
    subst hnil
    rfl
  · next hne =>
    obtain ⟨sql, hsql⟩ := hkeeps.exists_statement_iff.2
      ⟨by simp [htarget], by simp, by simpa [hcolumns]⟩
    obtain ⟨t, ht, htext⟩ := hkeeps.text_of_statement hsql
    obtain rfl := Option.some.inj (htarget.symm.trans ht)
    rw [hkeeps.alignedRows, hcolumns] at htext
    have hinto : "INSERT INTO " = "INSERT" ++ " INTO " := rfl
    have hvalues : ") VALUES (" = ") VALUES " ++ "(" := rfl
    rw [hsql, htext]
    refine congrArg Except.ok ?_
    unfold insertionText Insert.textOfRows
    dsimp only
    rw [if_neg (by simp)]
    simp only [hinto, hvalues, tableRef, TableRef.render, List.map_map, Function.comp_def,
      map_cell_of_nodup hrow, List.map_cons, List.map_nil, String.intercalate_singleton,
      String.append_assoc]

/-! ## Changes of one row -/

/-- The scope of the row with a key has one predicate and neither order nor bounds. -/
theorem keyScope_all (key : OwnRow) :
    keyScope d key.1 key.2 .all
      = ⟨Predicates.empty.push .and (d.comparison key.1 .equal key.2), [], 0, 0⟩ := rfl

/-- A change of the row with a key that is present has one predicate. -/
theorem render_keyScope {key : OwnRow} (hkey : key.2.isNull = false) (change : Change) :
    change.render d m.tableRef (keyScope d key.1 key.2 .all)
      = .ok (change.over (d.identifier m.table) ++ " WHERE " ++ d.identifier key.1 ++ " = "
        ++ d.literal key.2) := by
  rw [keyScope_all, change.render_unbounded (Predicates.isEmpty_push _ _ _), Predicates.render_push,
    d.comparison_equal key.1 hkey]
  refine congrArg Except.ok ?_
  simp only [tableRef, TableRef.render, String.append_assoc]

/-- **The DELETE of the row with a key** that is present. -/
theorem render_removal {key : OwnRow} (hkey : key.2.isNull = false) :
    DeleteData.render d ⟨some m.tableRef, keyScope d key.1 key.2 .all⟩
      = .ok (m.removalText d key) := by
  rw [DeleteData.render_of_skip _ fun _ => rfl, m.render_keyScope hkey]
  rfl

/-- Columns with their values in SQL. -/
def written (d : Dialect) (values : List (String × Value)) : Entries String String :=
  values.map fun v => (v.1, d.literal v.2)

/-- **The UPDATE of the row with a key** that is present. -/
theorem render_change {key : OwnRow} (hkey : key.2.isNull = false)
    {assigned : List (String × Value)} (hassigned : assigned ≠ []) :
    UpdateData.render d ⟨some m.tableRef, written d assigned, keyScope d key.1 key.2 .all⟩
      = .ok (m.changeText d key assigned) := by
  have hwritten : written d assigned ≠ [] := by simpa [written] using hassigned
  rw [UpdateData.render_of_skip _ (fun _ => rfl) _ hwritten, m.render_keyScope hkey]
  refine congrArg Except.ok ?_
  unfold changeText Change.over written
  simp only [List.map_map, Function.comp_def, String.append_assoc]

/-- Assigning values one after the other puts them in. -/
theorem foldl_set (values : List (String × Value)) (s : Update) :
    values.foldl (fun s v => s.set v.1 v.2) s
      = ⟨s.dialect, { s.data with
          assignments := (written s.dialect values).foldl (fun entries v => entries.put v.1 v.2)
            s.data.assignments }⟩ := by
  induction values generalizing s with
  | nil => rfl
  | cons v rest ih => exact ih (s.set v.1 v.2)

/-- The values that an UPDATE of the row with a key assigns: those of all other columns. -/
def assigned (key : OwnRow) (values : List (String × Value)) : List (String × Value) :=
  values.filter fun v => v.1 != key.1

/-- **The UPDATE of the row with a key** assigns each other column the last value that it gets. -/
theorem change_eq_ofPairs (d : Dialect) (key : OwnRow) (values : List (String × Value)) :
    m.change d key values
      = ⟨d, some m.tableRef, written d (Entries.ofPairs (assigned key values)),
        keyScope d key.1 key.2 .all⟩ := by
  have hput : Entries.ofPairs (written d (assigned key values))
      = written d (Entries.ofPairs (assigned key values)) := Entries.ofPairs_map _ _
  have hassigned := foldl_set (assigned key values) ((Update.new d).table m.tableRef)
  rw [change]
  refine (congrArg (fun s : Update => s.modifyScope (keyScope d key.1 key.2)) hassigned).trans ?_
  exact congrArg (fun entries =>
    Update.mk d ⟨some m.tableRef, entries, keyScope d key.1 key.2 .all⟩) hput

/-- **The UPDATE of the row with a key** from values with distinct columns. -/
theorem change_eq (d : Dialect) (key : OwnRow) {values : List (String × Value)}
    (hvalues : (values.map Prod.fst).Nodup) :
    m.change d key values
      = ⟨d, some m.tableRef, written d (assigned key values), keyScope d key.1 key.2 .all⟩ := by
  have hnodup : ((assigned key values).map Prod.fst).Nodup :=
    hvalues.sublist (List.filter_sublist.map Prod.fst)
  rw [m.change_eq_ofPairs, Entries.ofPairs_of_nodup hnodup]

end Model

end SqlBuilder
