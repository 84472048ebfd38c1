import SqlBuilder.Delete
import SqlBuilder.Proofs.Parallel.Entries
import SqlBuilder.Proofs.Parallel.Select
import SqlBuilder.Update

/-! # Parallel changes

Two scopes are alike if they have the same order and bounds and alike WHERE lists, two UPDATEs if
they assign parallel values to the same columns.  Changes of alike scopes fail for the same reason
or have parallel texts, in every dialect's way of bounding a change. -/

namespace SqlBuilder

variable {d : Dialect} {P : String → String → Prop}

/-! ## Scopes -/

/-- **Two scopes with the same order and bounds** and alike WHERE lists. -/
structure RowScope.Alike (d : Dialect) (P : String → String → Prop) (scope scope' : RowScope) :
    Prop where
  /-- The scopes differ in their WHERE lists only. -/
  same : scope' = { scope with filter := scope'.filter }
  /-- The WHERE lists are alike. -/
  filter : scope.filter.Alike d P scope'.filter
  /-- The order is steady. -/
  ordering : ∀ s ∈ scope.ordering, Steady d P s

namespace RowScope

variable {scope scope' : RowScope}

theorem Alike.all : RowScope.Alike d P .all .all where
  same := rfl
  filter := .empty
  ordering := by simp [RowScope.all]

/-- The queries for the rows of alike scopes. -/
theorem Alike.selection (h : scope.Alike d P scope') {columns : String}
    (hcolumns : Steady d P columns) (table : TableRef) :
    ResultAlike (Parallel d P) (scope.selection d columns table)
      (scope'.selection d columns table) := by
  rw [h.same]
  refine h.filter.whereClause.bind fun filter filter' hfilter => .ok ?_
  have hplain : ∀ paging : PagingClause,
      IsPlain ("SELECT " ++ paging.beforeDistinct ++ paging.afterDistinct) := by
    intro paging
    simp only [isPlain_append]
    exact ⟨⟨by decide, paging.isPlain_beforeDistinct⟩, paging.isPlain_afterDistinct⟩
  have horder := parallelClause_orderClause h.ordering (d.selectPaging scope.limit scope.offset)
  refine Dialect.parallel_window _ _ ?_
  exact (((((hcolumns.plain_append (hplain _)).glue (by decide) (by decide)
    (parallel_tableRef table)).append hfilter).append horder).append_plain
    (PagingClause.isPlain_trailing _))

end RowScope

/-! ## Changes -/

/-- The same change, with parallel assignments. -/
inductive Change.Alike (d : Dialect) (P : String → String → Prop) : Change → Change → Prop
  | update {sets sets' : String} (h : Parallel d P sets sets') :
    Alike d P (.update sets) (.update sets')
  | delete : Alike d P .delete .delete

namespace Change

variable {change change' : Change} {scope scope' : RowScope}

/-- Alike changes of parallel targets. -/
theorem Alike.over (h : change.Alike d P change') {target target' : String}
    (ht : Parallel d P target target') :
    Parallel d P (change.over target) (change'.over target') := by
  cases h with
  | update hsets =>
    exact (ht.plain_append (p := "UPDATE ") (by decide)).glue (p := " SET ") (by decide) (by decide)
      hsets
  | delete => exact ht.plain_append (p := "DELETE FROM ") (by decide)

variable (h : change.Alike d P change') (hscope : scope.Alike d P scope') (table : TableRef)
include h hscope

/-- Alike changes that the statement itself bounds. -/
theorem Alike.direct :
    ResultAlike (Parallel d P) (change.direct d table scope) (change'.direct d table scope') :=
  hscope.filter.whereClause.bind fun _ _ hfilter =>
    .ok ((h.over (parallel_tableRef table)).append hfilter)

/-- Alike changes with order and bounds behind them. -/
theorem Alike.withTrailing :
    ResultAlike (Parallel d P) (change.withTrailing d table scope)
      (change'.withTrailing d table scope') := by
  rw [hscope.same]
  refine hscope.filter.whereClause.bind fun _ _ hfilter => .ok ?_
  exact (((h.over (parallel_tableRef table)).append hfilter).append
    (parallelClause_orderClause hscope.ordering _)).append_plain (PagingClause.isPlain_trailing _)

/-- Alike changes of a query in place of the table. -/
theorem Alike.inPlace :
    ResultAlike (Parallel d P)
      ((scope.selection d "*" table).map fun rows => change.over ("(" ++ rows ++ ")"))
      ((scope'.selection d "*" table).map fun rows => change'.over ("(" ++ rows ++ ")")) :=
  (hscope.selection (.plain (by decide)) table).map fun _ _ hrows =>
    h.over ((hrows.plain_append (by decide)).append_plain (by decide))

/-- **Changes of alike scopes fail for the same reason or have parallel texts.** -/
theorem Alike.render :
    ResultAlike (Parallel d P) (change.render d table scope) (change'.render d table scope') := by
  -- Alike scopes have the same order and bounds, so both changes are bounded or both are not.
  have hwindow : scope'.hasWindow = scope.hasWindow := by rw [hscope.same]; rfl
  have hbounded : scope'.isBounded = scope.isBounded := by rw [hscope.same]; rfl
  have htable := h.over (parallel_tableRef (d := d) (P := P) table)
  have hdirect := h.direct hscope table
  unfold Change.render
  cases hstyle : d.bounding with
  | trailing => exact h.withTrailing hscope table
  | byRowId column opening closing =>
    have hplain : IsPlain column ∧ IsPlain (" WHERE " ++ opening) ∧ IsPlain closing := by
      revert hstyle
      cases d <;> intro hstyle <;> cases hstyle <;> decide
    have hne : " WHERE " ++ opening ≠ "" := by
      revert hstyle
      cases d <;> intro hstyle <;> cases hstyle <;> decide
    simp only [hbounded]
    split
    · refine (hscope.selection (.plain hplain.1) table).bind fun rows rows' hrows => .ok ?_
      have hchosen := (htable.glue hplain.2.1 hne hrows).append_plain hplain.2.2
      -- The opening text is written in two pieces.
      rwa [← String.append_assoc, ← String.append_assoc] at hchosen
    · exact hdirect
  | namedQuery =>
    obtain rfl : d = .msSql := by
      cases d <;> first | rfl | cases hstyle
    simp only [hwindow]
    split
    · next hbounds =>
      rw [RowScope.namedSelection_eq_selection hbounds,
        RowScope.namedSelection_eq_selection (hwindow.trans hbounds)]
      refine (hscope.selection (.plain (by decide)) table).bind fun rows rows' hrows => .ok ?_
      -- The query has one of two names, so that it never has the table's.
      have hname : IsPlain (queryName table) := .ite (by decide) (by decide)
      exact ((hrows.plain_append ((isPlain_append _ _).2
        ⟨(isPlain_append _ _).2 ⟨by decide, hname⟩, by decide⟩)).glue (p := ") ") (by decide)
        (by decide) (h.over (.plain hname)))
    · exact hdirect
  | inPlaceQuery =>
    simp only [hwindow]
    split
    · exact h.inPlace hscope table
    · exact hdirect
  | numberedRows =>
    simp only [hwindow]
    split
    · cases h with
      | delete => exact Alike.inPlace .delete hscope table
      | update hsets =>
        have hid : Steady d P (d.aliasName "rid") := parallel_aliasName _
        refine (hscope.selection (hid.plain_append (by decide)) table).bind
          fun rows rows' hrows => .ok ?_
        exact ((htable.glue (p := " WHERE ROWID IN (SELECT ") (by decide) (by decide) hid).glue
          (p := " FROM (") (by decide) (by decide) hrows).append_plain (p := "))") (by decide)
    · exact hdirect

end Change

/-! ## UPDATE and DELETE -/

/-- A statement with a semicolon or without stays parallel. -/
theorem parallel_terminate (terminated : Bool) {sql sql' : String} (h : Parallel d P sql sql') :
    Parallel d P (terminate sql terminated) (terminate sql' terminated) := by
  cases terminated
  · exact h
  · exact h.append_plain (p := ";") (by decide)

/-- **Two UPDATEs that assign parallel values** to the same columns of alike scopes. -/
structure UpdateData.Alike (d : Dialect) (P : String → String → Prop) (data data' : UpdateData) :
    Prop where
  /-- The table is the same. -/
  target : data.target = data'.target
  /-- The assignments are alike. -/
  assignments : RowAlike d P data.assignments data'.assignments
  /-- The scopes are alike. -/
  scope : data.scope.Alike d P data'.scope

/-- Alike UPDATEs fail for the same reason or have parallel texts. -/
theorem UpdateData.Alike.render {data data' : UpdateData} (h : data.Alike d P data') :
    ResultAlike (Parallel d P) (data.render d) (data'.render d) := by
  have hcheck : d.checkOffset data'.scope = d.checkOffset data.scope := by rw [h.scope.same]; rfl
  have hempty := isEmpty_eq_of_forall₂ h.assignments
  have htarget : data'.checkedTarget = data.checkedTarget := by
    rw [checkedTarget, checkedTarget, h.target, hempty]
  have hset : Parallel d P (data.setText d) (data'.setText d) := by
    refine .intercalate (by decide) (by decide) ?_
    rw [List.forall₂_map_left_iff, List.forall₂_map_right_iff]
    refine h.assignments.imp fun cell cell' hcell => ?_
    rw [← hcell.1]
    exact (parallel_identifier _).glue (by decide) (by decide) hcell.2
  rw [UpdateData.render, UpdateData.render, hcheck, htarget]
  cases d.checkOffset data.scope with
  | error e => exact .error e
  | ok =>
    cases data.checkedTarget with
    | error e => exact .error e
    | ok t => exact Change.Alike.render (.update hset) h.scope t

/-- Two DELETEs of alike scopes of the same table. -/
structure DeleteData.Alike (d : Dialect) (P : String → String → Prop) (data data' : DeleteData) :
    Prop where
  /-- The table is the same. -/
  target : data.target = data'.target
  /-- The scopes are alike. -/
  scope : data.scope.Alike d P data'.scope

/-- Alike DELETEs fail for the same reason or have parallel texts. -/
theorem DeleteData.Alike.render {data data' : DeleteData} (h : data.Alike d P data') :
    ResultAlike (Parallel d P) (data.render d) (data'.render d) := by
  have hcheck : d.checkOffset data'.scope = d.checkOffset data.scope := by rw [h.scope.same]; rfl
  rw [DeleteData.render, DeleteData.render, hcheck, h.target]
  cases d.checkOffset data.scope with
  | error e => exact .error e
  | ok =>
    cases data'.target with
    | none => exact .error _
    | some t => exact Change.Alike.render .delete h.scope t

end SqlBuilder
