import SqlBuilder.Proofs.BoundedChange
import SqlBuilder.Proofs.Paging
import SqlBuilder.Proofs.QuotedNames

/-! # The name of the query in a bounded change

Where a bounded change acts on a named query in front of it, the query reads from the table, and so
its name must not be a name of the table or its alias.  There are two candidates, `t0` and `t1`.
The second is taken if the table or its alias is read as the first, whatever the other one is, and
a name that is read with blanks around it hides behind them: exactly then the names collide
(`query_name_collides_iff`). -/

namespace SqlBuilder

/-! ## Tables that have the name of their query -/

/-- Whether a table or its alias has a name, as it is read for the choice of a query name. -/
def TableRef.Reads (t : TableRef) (name : String) : Prop :=
  ∃ segment ∈ t.segments, Text.equalIgnoringCase (unquoted segment) name = true

/-- Whether a table or its alias has a name, as it is written. -/
def TableRef.Writes (t : TableRef) (name : String) : Prop :=
  ∃ segment ∈ t.segments, Text.equalIgnoringCase (segmentName segment) name = true

/-- **A table that has the name of the query for its rows**: both candidates are used, or the first
one is hidden behind blanks. -/
def TableRef.TakesQueryName (t : TableRef) : Prop :=
  t.Reads "t0" ∧ t.Writes "t1" ∨
    ¬ t.Reads "t0" ∧ ∃ segment ∈ t.segments,
      Text.equalIgnoringCase (segmentName segment) "t0" = true ∧ Text.trim segment ≠ segment

/-- The second candidate is chosen if the first one is read. -/
theorem queryName_eq (t : TableRef) :
    (t.Reads "t0" ∧ queryName t = "t1") ∨ (¬ t.Reads "t0" ∧ queryName t = "t0") := by
  have hreads : t.Reads "t0" ↔
      (Text.equalIgnoringCase (unquoted (Text.lastPiece '.' t.name)) "t0"
        || t.aliasName.any fun name => Text.equalIgnoringCase (unquoted name) "t0") = true := by
    rw [TableRef.Reads, TableRef.segments]
    cases t.aliasName <;> simp
  by_cases h : t.Reads "t0"
  · refine Or.inl ⟨h, ?_⟩
    rw [queryName]
    exact if_pos (hreads.1 h)
  · refine Or.inr ⟨h, ?_⟩
    rw [queryName]
    exact if_neg fun htaken => h (hreads.2 htaken)

/-- **A name without quotes that is written is also read exactly if it has no blanks around it.** -/
theorem equalIgnoringCase_unquoted_iff_trim {segment name : String}
    (hsegment : Text.equalIgnoringCase (segmentName segment) name = true)
    (hmarks : ConsistsOf (fun c => !isQuoteMark c) name) :
    Text.equalIgnoringCase (unquoted segment) name = true ↔ Text.trim segment = segment := by
  rw [equalIgnoringCase_iff] at hsegment
  have hplain : IsPlainSegment segment ↔ Text.trim segment = segment := by
    -- No quote is in the name, whatever the letter case is.
    have hnone : ∀ c ∈ (segmentName segment).toList, isQuoteMark c = false := by
      intro c hc
      have hsame := List.mem_map_of_mem (f := isQuoteMark) hc
      rw [isQuoteMark_eq_of_lower hsegment] at hsame
      obtain ⟨c', hc', heq⟩ := List.mem_map.1 hsame
      rw [← heq]
      simpa using hmarks c' hc'
    rw [IsPlainSegment, ← String.toList_inj, Text.toList_trim]
    exact and_iff_left ⟨fun c hc => hnone c (List.mem_of_mem_head? hc),
      fun c hc => hnone c (List.mem_of_mem_getLast? hc)⟩
  rw [← hplain, ← equalIgnoringCase_unquoted_iff, equalIgnoringCase_iff, equalIgnoringCase_iff,
    hsegment]

/-- **The name of the query is a name of the table exactly for such tables.** -/
theorem writes_queryName_iff (t : TableRef) : t.Writes (queryName t) ↔ t.TakesQueryName := by
  have hfirst : ∀ segment ∈ t.segments,
      Text.equalIgnoringCase (segmentName segment) "t0" = true → ¬ t.Reads "t0" →
        Text.trim segment ≠ segment := by
    intro segment hmem hsegment hreads htrim
    exact hreads ⟨segment, hmem, (equalIgnoringCase_unquoted_iff_trim hsegment (by decide)).2 htrim⟩
  rw [TableRef.TakesQueryName]
  -- One disjunct of the collision belongs to each candidate.
  rcases queryName_eq t with ⟨hreads, hname⟩ | ⟨hreads, hname⟩
  · rw [hname]
    exact ⟨fun h => Or.inl ⟨hreads, h⟩, fun h => h.elim And.right fun h => absurd hreads h.1⟩
  · rw [hname]
    constructor
    · rintro ⟨segment, hmem, hsegment⟩
      exact Or.inr ⟨hreads, segment, hmem, hsegment, hfirst segment hmem hsegment hreads⟩
    · rintro (h | ⟨-, segment, hmem, hsegment, -⟩)
      · exact absurd h.1 hreads
      · exact ⟨segment, hmem, hsegment⟩

/-! ## Bounded statements -/

/-- **The names of a bounded DELETE or UPDATE on a named query.** The statement changes a query, by
its name, that reads from the table.  That name is, up to letter case, a name in the text of the
table or its alias exactly if both candidates are used or the first one is hidden behind blanks. -/
theorem query_name_collides_iff {t : TableRef} {statement : RowScope → DbResult String}
    (hstatement : IsChangeOf .msSql t statement) {scope : RowScope}
    (hbounds : scope.limit > 0 ∨ scope.offset > 0) {sql : String}
    (hsql : statement scope = .ok sql) :
    ∃ (name rows : String) (change : Change),
      sql = "WITH " ++ name ++ " AS (" ++ rows ++ ") " ++ change.over name ∧
      Query.render .msSql (scope.query [] (t.render .msSql)) = .ok rows ∧
      ((∃ source ∈ Dialect.msSql.sourceNames (t.render .msSql),
        Text.equalIgnoringCase source name = true) ↔ t.TakesQueryName) := by
  have hrewriting : Dialect.msSql ∈ Dialect.rewriting := by decide
  have hscope : Dialect.msSql.bounds scope = true := by
    simpa [Dialect.bounds] using hbounds
  obtain ⟨change, hchange⟩ := hstatement.exists_change
  have hshown : change.shownColumns .msSql = [] := by cases change <;> rfl
  have hframe : change.frame .msSql t
      = ("WITH " ++ queryName t ++ " AS (", ") " ++ change.over (queryName t)) := by
    cases change <;> rfl
  rw [hchange, Dialect.checkOffset_of_rewriting hrewriting] at hsql
  have hrender := (Change.render_of_bounds hrewriting hscope change t).symm.trans hsql
  rw [hshown, hframe] at hrender
  cases hrows : Query.render .msSql (scope.query [] (t.render .msSql)) with
  | error e =>
    rw [hrows] at hrender
    cases hrender
  | ok rows =>
    rw [hrows] at hrender
    have htext := Except.ok.inj hrender
    refine ⟨queryName t, rows, change, ?_, rfl, ?_⟩
    · rw [← htext]
      exact String.append_assoc.symm
    · rw [sourceNames_render, ← writes_queryName_iff, TableRef.Writes]
      simp only [List.mem_map, exists_exists_and_eq_and]

/-- The first user is deleted through a query that has a name of its own. -/
theorem query_name_of_users :
    let users : TableRef := ⟨"app.users", some "t0"⟩
    let scope : RowScope := ⟨.empty, [], 1, 0⟩
    let sql := "WITH t1 AS (SELECT TOP 1 * FROM [app].[users] AS [t0]) DELETE FROM t1"
    IsChangeOf .msSql users (fun scope => DeleteData.render .msSql ⟨some users, scope⟩) ∧
    (scope.limit > 0 ∨ scope.offset > 0) ∧
    DeleteData.render .msSql ⟨some users, scope⟩ = .ok sql ∧
    ∃ (name rows : String) (change : Change),
      sql = "WITH " ++ name ++ " AS (" ++ rows ++ ") " ++ change.over name ∧
      Query.render .msSql (scope.query [] (users.render .msSql)) = .ok rows ∧
      ((∃ source ∈ Dialect.msSql.sourceNames (users.render .msSql),
        Text.equalIgnoringCase source name = true) ↔ users.TakesQueryName) := by
  intro users scope sql
  have hdelete : IsChangeOf .msSql users
      (fun scope => DeleteData.render .msSql ⟨some users, scope⟩) := .delete
  have hbounds : scope.limit > 0 ∨ scope.offset > 0 := Or.inl (by decide)
  have hsql : DeleteData.render .msSql ⟨some users, scope⟩ = .ok sql := by decide +kernel
  exact ⟨hdelete, hbounds, hsql, query_name_collides_iff hdelete hbounds hsql⟩

/-- **Two tables that take the name of the query**: one uses both candidates, the other hides the
first one behind a blank. -/
theorem query_name_collides :
    let scope : RowScope := ⟨.empty, [], 1, 0⟩
    DeleteData.render .msSql ⟨some ⟨"t0", some "t1"⟩, scope⟩
        = .ok "WITH t1 AS (SELECT TOP 1 * FROM [t0] AS [t1]) DELETE FROM t1" ∧
    Dialect.msSql.sourceNames "[t0] AS [t1]" = ["t0", "t1"] ∧
    DeleteData.render .msSql ⟨some ⟨" t0", none⟩, scope⟩
        = .ok "WITH t0 AS (SELECT TOP 1 * FROM [t0]) DELETE FROM t0" ∧
    Dialect.msSql.sourceNames "[t0]" = ["t0"] := by
  have hnames : ∀ t : TableRef, Dialect.msSql.sourceNames (t.render .msSql)
      = t.segments.map segmentName := sourceNames_render
  exact ⟨by decide +kernel, hnames ⟨"t0", some "t1"⟩, by decide +kernel, hnames ⟨"t0", none⟩⟩

end SqlBuilder
