import SqlBuilder.Proofs.Paging

/-! # The WHERE list of a change

An UPDATE or DELETE has its WHERE list in one place, whatever the dialect does to bound it: in the
statement itself, in front of the order and bounds behind it, or in the query that it acts on.  The
texts around that place do not depend on the list (`KeepsFilter`), so no list is lost and none is
written twice (`where_list_is_kept`). -/

namespace SqlBuilder

/-- **A statement that keeps its WHERE list** between two fixed texts.  It fails exactly as the list
does.  Otherwise the list stands between the texts behind the word WHERE, or nothing if the list is
empty. -/
def KeepsFilter (before after : String) (statement : Predicates → DbResult String) : Prop :=
  ∀ p : Predicates, statement p = p.render.map fun sql =>
    if p.isEmpty then before ++ after else before ++ " WHERE " ++ sql ++ after

namespace KeepsFilter

variable {before after : String} {statement : Predicates → DbResult String}

/-- The WHERE clause alone keeps the list. -/
theorem whereClause : KeepsFilter "" "" Predicates.whereClause := by
  intro p
  obtain ⟨terms⟩ := p
  cases terms with
  | nil => rfl
  | cons t rest =>
    rw [Predicates.whereClause, Predicates.clause]
    simp [Predicates.isEmpty]

/-- Equal statements keep the list alike. -/
theorem congr (h : KeepsFilter before after statement) {other : Predicates → DbResult String}
    (heq : ∀ p, other p = statement p) : KeepsFilter before after other := by
  intro p
  rw [heq, h p]

/-- Further texts around a statement keep the list. -/
theorem frame (h : KeepsFilter before after statement) (front back : String) :
    KeepsFilter (front ++ before) (after ++ back)
      fun p => (statement p).map fun sql => front ++ sql ++ back := by
  intro p
  dsimp only
  rw [h p]
  cases p.render with
  | error e => rfl
  | ok sql =>
    simp only [Except.map]
    split <;> simp only [String.append_assoc]

/-- The WHERE clause between two texts keeps the list. -/
theorem around (front back : String) :
    KeepsFilter front back fun p => p.whereClause.map fun filter => front ++ filter ++ back := by
  have hframe := whereClause.frame front back
  rwa [String.append_empty, String.empty_append] at hframe

end KeepsFilter

/-! ## Queries for rows -/

namespace RowWindow

/-- The text in front of a query with a window. -/
def front : RowWindow → String
  | .all => ""
  | .upTo _ | .fromOn _ => "SELECT * FROM ("
  | .between _ _ => "SELECT * FROM (SELECT \"t0\".*, ROWNUM AS \"rn\" FROM ("

/-- The text behind a query with a window. -/
def back : RowWindow → String
  | .all => ""
  | .upTo upper => ") WHERE ROWNUM <= " ++ countText upper
  | .fromOn lower => ") WHERE ROWNUM >= " ++ countText lower
  | .between lower upper =>
    ") \"t0\" WHERE ROWNUM <= " ++ countText upper ++ ") WHERE \"rn\" >= " ++ countText lower

/-- **A window of rows stands around its query.** -/
theorem wrap_eq (w : RowWindow) (sql : String) : w.wrap sql = w.front ++ sql ++ w.back := by
  have hinner : Dialect.oracle.aliasName "t0" = "\"t0\"" := by decide
  have hnumber : Dialect.oracle.aliasName "rn" = "\"rn\"" := by decide
  cases w with
  | all => exact (String.append_empty.trans String.empty_append).symm
  | upTo upper | fromOn lower =>
    unfold wrap front back
    simp only [String.append_assoc]
  | between lower upper =>
    have hopen : "SELECT * FROM (SELECT \"t0\".*, ROWNUM AS \"rn\" FROM ("
        = "SELECT * FROM (SELECT " ++ ("\"t0\"" ++ (".*, ROWNUM AS " ++ ("\"rn\"" ++ " FROM (")))
      := by decide
    have hclose : ") \"t0\" WHERE ROWNUM <= " = ") " ++ ("\"t0\"" ++ " WHERE ROWNUM <= ") := by
      decide
    have htest : ") WHERE \"rn\" >= " = ") WHERE " ++ ("\"rn\"" ++ " >= ") := by decide
    unfold wrap front back
    rw [hinner, hnumber, hopen, hclose, htest]
    simp only [String.append_assoc]

end RowWindow

/-- The bounds of a query put fixed texts around it. -/
theorem Dialect.exists_window_eq (d : Dialect) (limit offset : UInt64) :
    ∃ front back, ∀ sql, d.window limit offset sql = front ++ sql ++ back := by
  cases d
  case oracle => exact ⟨_, _, (RowWindow.ofBounds limit offset).wrap_eq⟩
  all_goals
    refine ⟨"", "", fun sql => ?_⟩
    rw [String.empty_append, String.append_empty]
    rfl

/-- **A query for the rows of a scope keeps the WHERE list.** -/
theorem RowScope.exists_keepsFilter_selection (scope : RowScope) (d : Dialect) (columns : String)
    (t : TableRef) :
    ∃ before after, KeepsFilter before after
      fun p => RowScope.selection { scope with filter := p } d columns t := by
  obtain ⟨front, back, hwindow⟩ := d.exists_window_eq scope.limit scope.offset
  -- The clause stands between the table and the order, and the window around all of these.
  have hinner := (KeepsFilter.around
    ("SELECT " ++ (d.selectPaging scope.limit scope.offset).beforeDistinct
      ++ (d.selectPaging scope.limit scope.offset).afterDistinct ++ columns ++ " FROM "
      ++ t.render d)
    (orderClause scope.ordering (d.selectPaging scope.limit scope.offset)
      ++ (d.selectPaging scope.limit scope.offset).trailing)).frame front back
  refine ⟨_, _, hinner.congr fun p => ?_⟩
  unfold RowScope.selection
  dsimp only
  cases p.whereClause with
  | error e => rfl
  | ok filter =>
    refine congrArg Except.ok ?_
    rw [hwindow]
    simp only [String.append_assoc]

/-! ## Changes -/

/-- A dialect puts its bounds behind a change or a query into it. -/
theorem Dialect.trailing_or_rewriting (d : Dialect) :
    d.bounding = .trailing ∨ d ∈ Dialect.rewriting := by
  cases d <;> decide

namespace Change

/-- A change that the statement itself bounds keeps the WHERE list behind the target. -/
theorem keepsFilter_direct (change : Change) (d : Dialect) (t : TableRef) (scope : RowScope) :
    KeepsFilter (change.over (t.render d)) ""
      fun p => change.direct d t { scope with filter := p } := by
  refine (KeepsFilter.around (change.over (t.render d)) "").congr fun p => ?_
  unfold direct
  dsimp only
  cases p.whereClause with
  | error e => rfl
  | ok filter => exact congrArg Except.ok String.append_empty.symm

/-- A change with order and bounds behind it keeps the WHERE list in front of these. -/
theorem keepsFilter_withTrailing (change : Change) (d : Dialect) (t : TableRef)
    (scope : RowScope) :
    KeepsFilter (change.over (t.render d))
      (orderClause scope.ordering (d.changePaging scope.limit scope.offset)
        ++ (d.changePaging scope.limit scope.offset).trailing)
      fun p => change.withTrailing d t { scope with filter := p } := by
  refine (KeepsFilter.around (change.over (t.render d)) _).congr fun p => ?_
  unfold withTrailing
  dsimp only
  cases p.whereClause with
  | error e => rfl
  | ok filter => exact congrArg Except.ok String.append_assoc

/-- In the dialects that put a query into a bounded change, another change stands for itself. -/
theorem render_of_not_bounds {d : Dialect} (hd : d ∈ Dialect.rewriting) {scope : RowScope}
    (hscope : d.bounds scope = false) (change : Change) (t : TableRef) :
    change.render d t scope = change.direct d t scope := by
  cases d
  case standard | firebird | mariaDb | mySql => exact absurd hd (by decide)
  case postgreSql | sqlite =>
    have hbounded : ¬ scope.isBounded = true := by
      simpa [Dialect.bounds, RowScope.isBounded, RowScope.hasWindow, and_assoc] using hscope
    exact if_neg hbounded
  case msSql | oracle | db2 =>
    have hwindow : ¬ scope.hasWindow = true := Bool.eq_false_iff.1 hscope
    exact if_neg hwindow

/-- **A change keeps the WHERE list**, in every dialect and with any bounds. -/
theorem exists_keepsFilter (change : Change) (d : Dialect) (t : TableRef) (scope : RowScope) :
    ∃ before after, KeepsFilter before after
      fun p => change.render d t { scope with filter := p } := by
  rcases d.trailing_or_rewriting with htrailing | hrewriting
  · have hkeeps := change.keepsFilter_withTrailing d t scope
    exact ⟨_, _, hkeeps.congr fun p => render_of_trailing htrailing change t _⟩
  · -- The bounds of a scope do not depend on its WHERE list.
    have hsame : ∀ p, d.bounds { scope with filter := p } = d.bounds scope := by
      intro p
      cases d <;> rfl
    cases hbounds : d.bounds scope with
    | false =>
      have hkeeps := change.keepsFilter_direct d t scope
      exact ⟨_, _, hkeeps.congr fun p =>
        render_of_not_bounds hrewriting ((hsame p).trans hbounds) change t⟩
    | true =>
      obtain ⟨before, after, hkeeps⟩ := scope.exists_keepsFilter_selection d
        (if (change.shownColumns d).isEmpty then "*" else ", ".intercalate (change.shownColumns d))
        t
      refine ⟨_, _, (hkeeps.frame (change.frame d t).1 (change.frame d t).2).congr fun p => ?_⟩
      rw [render_of_bounds hrewriting ((hsame p).trans hbounds), RowScope.selection_eq_render]

/-- **A change without order and bounds is never rewritten**: its WHERE list stands at its end. -/
theorem keepsFilter_unbounded (change : Change) (d : Dialect) (t : TableRef) :
    KeepsFilter (change.over (t.render d)) "" fun p => change.render d t ⟨p, [], 0, 0⟩ := by
  rcases d.trailing_or_rewriting with htrailing | hrewriting
  · have hkeeps := change.keepsFilter_withTrailing d t .all
    have hempty : orderClause [] (d.changePaging 0 0) ++ (d.changePaging 0 0).trailing = "" := by
      cases d <;> decide
    rw [← hempty]
    exact hkeeps.congr fun p => render_of_trailing htrailing change t _
  · have hbounds : ∀ p : Predicates, d.bounds ⟨p, [], 0, 0⟩ = false := by
      intro p
      cases d <;> rfl
    exact (change.keepsFilter_direct d t .all).congr fun p =>
      render_of_not_bounds hrewriting (hbounds p) change t

end Change

/-! ## UPDATE and DELETE -/

section

variable {d : Dialect} (scope : RowScope) (hskip : d ∈ [Dialect.mySql, .mariaDb] → scope.offset = 0)
include hskip

/-- Where no rows are to be skipped that the dialect cannot skip, the check of the offset passes. -/
theorem Dialect.checkOffset_of_mem : d.checkOffset scope = .ok () := by
  refine Dialect.checkOffset_of_skip ?_
  cases d
  case mySql | mariaDb => exact Or.inr (hskip (by decide))
  all_goals exact Or.inl rfl

/-- The text of a DELETE is that of its change. -/
theorem DeleteData.render_of_skip (t : TableRef) :
    DeleteData.render d ⟨some t, scope⟩ = Change.delete.render d t scope := by
  rw [DeleteData.render, Dialect.checkOffset_of_mem scope hskip]
  rfl

/-- The text of an UPDATE that assigns something is that of its change. -/
theorem UpdateData.render_of_skip (t : TableRef) {assignments : Entries String String}
    (hne : assignments ≠ []) :
    UpdateData.render d ⟨some t, assignments, scope⟩
      = (Change.update (", ".intercalate
          (assignments.map fun a => d.identifier a.1 ++ " = " ++ a.2))).render d t scope := by
  have htarget : UpdateData.checkedTarget ⟨some t, assignments, scope⟩ = .ok t := by
    simp [UpdateData.checkedTarget, hne]
  rw [UpdateData.render, Dialect.checkOffset_of_mem scope hskip, htarget]
  rfl

end

/-- **A WHERE list is never lost from a DELETE or UPDATE**, nor written twice.  In every dialect, and
whatever the order and the bounds, the list stands between two texts that do not depend on it.
Without order and bounds the statement is not rewritten: the list stands at its end. -/
theorem where_list_is_kept (d : Dialect) (t : TableRef) (scope : RowScope)
    (hskip : d ∈ [Dialect.mySql, .mariaDb] → scope.offset = 0) :
    (∃ before after, KeepsFilter before after fun p =>
      DeleteData.render d ⟨some t, { scope with filter := p }⟩) ∧
    (∀ assignments : Entries String String, assignments ≠ [] →
      ∃ before after, KeepsFilter before after fun p =>
        UpdateData.render d ⟨some t, assignments, { scope with filter := p }⟩) ∧
    (scope.ordering = [] → scope.limit = 0 → scope.offset = 0 →
      KeepsFilter ("DELETE FROM " ++ t.render d) "" (fun p =>
        DeleteData.render d ⟨some t, { scope with filter := p }⟩) ∧
      ∀ assignments : Entries String String, assignments ≠ [] →
        KeepsFilter ("UPDATE " ++ t.render d ++ " SET " ++ ", ".intercalate
            (assignments.map fun a => d.identifier a.1 ++ " = " ++ a.2)) "" fun p =>
          UpdateData.render d ⟨some t, assignments, { scope with filter := p }⟩) := by
  refine ⟨?_, fun assignments hne => ?_, fun hordering hlimit hoffset => ?_⟩
  · obtain ⟨before, after, hkeeps⟩ := Change.delete.exists_keepsFilter d t scope
    exact ⟨before, after, hkeeps.congr fun p =>
      DeleteData.render_of_skip { scope with filter := p } hskip t⟩
  · obtain ⟨before, after, hkeeps⟩ := Change.exists_keepsFilter (.update (", ".intercalate
      (assignments.map fun a => d.identifier a.1 ++ " = " ++ a.2))) d t scope
    exact ⟨before, after, hkeeps.congr fun p =>
      UpdateData.render_of_skip { scope with filter := p } hskip t hne⟩
  · obtain ⟨filter, ordering, limit, offset⟩ := scope
    subst hordering hlimit hoffset
    have hdelete : Change.delete.over (t.render d) = "DELETE FROM " ++ t.render d := rfl
    have hupdate : ∀ sets : String, (Change.update sets).over (t.render d)
        = "UPDATE " ++ t.render d ++ " SET " ++ sets := fun _ => rfl
    refine ⟨?_, fun assignments hne => ?_⟩
    · rw [← hdelete]
      exact (Change.delete.keepsFilter_unbounded d t).congr fun p =>
        DeleteData.render_of_skip ⟨p, [], 0, 0⟩ (fun _ => rfl) t
    · rw [← hupdate]
      exact (Change.keepsFilter_unbounded _ d t).congr fun p =>
        UpdateData.render_of_skip ⟨p, [], 0, 0⟩ (fun _ => rfl) t hne

/-- Oracle finds the list in the middle of two windows, and MySQL at the end of a statement without
bounds. -/
theorem where_list_is_kept_in_window :
    let users : TableRef := ⟨"users", none⟩
    let window : RowScope := ⟨.empty, ["\"age\" ASC"], 10, 5⟩
    (Dialect.oracle ∈ [Dialect.mySql, .mariaDb] → window.offset = 0) ∧
    (Dialect.mySql ∈ [Dialect.mySql, .mariaDb] → RowScope.all.offset = 0) ∧
    (∃ before after, KeepsFilter before after fun p =>
      DeleteData.render .oracle ⟨some users, { window with filter := p }⟩) ∧
    UpdateData.render .mySql ⟨some users, [("age", "0")], { RowScope.all with
        filter := .ofCalls [.push .and "`age` > 9", .push .or "`age` < 0"] }⟩
      = .ok "UPDATE `users` SET `age` = 0 WHERE `age` > 9 OR `age` < 0" := by
  intro users window
  have horacle : Dialect.oracle ∈ [Dialect.mySql, .mariaDb] → window.offset = 0 := by decide
  have hmySql : Dialect.mySql ∈ [Dialect.mySql, .mariaDb] → RowScope.all.offset = 0 := by decide
  refine ⟨horacle, hmySql, (where_list_is_kept .oracle users window horacle).1, ?_⟩
  have hunbounded := (where_list_is_kept .mySql users .all hmySql).2.2 rfl rfl rfl
  refine (hunbounded.2 [("age", "0")] (by simp) _).trans ?_
  decide

end SqlBuilder
