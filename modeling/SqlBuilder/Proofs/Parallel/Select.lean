import SqlBuilder.Proofs.Parallel.Predicates
import SqlBuilder.Select.Builder

/-! # Parallel queries

Two queries are alike if they have the same clauses but for alike predicate lists, and combined
queries whose texts are parallel.  Then both fail for the same reason or have parallel texts: the
paging, the window of numbered rows and the set operators add plain text and quoted names only. -/

namespace SqlBuilder

variable {d : Dialect} {P : String → String → Prop}

/-- A text that is parallel to itself. -/
abbrev Steady (d : Dialect) (P : String → String → Prop) (s : String) : Prop := Parallel d P s s

/-- Steady texts with a separator between them are steady. -/
theorem Steady.intercalate {p : String} (hp : IsPlain p) (hne : p ≠ "") {l : List String}
    (h : ∀ s ∈ l, Steady d P s) : Steady d P (p.intercalate l) :=
  Parallel.intercalate hp hne (List.forall₂_same.2 h)

/-! ## Paging -/

theorem isPlain_countClause {before after : String} (hbefore : IsPlain before)
    (hafter : IsPlain after) (n : Option UInt64) : IsPlain (countClause before n after) := by
  cases n with
  | none => exact isPlain_empty
  | some n =>
    rw [countClause, isPlain_append, isPlain_append]
    exact ⟨⟨hbefore, isPlain_countText n⟩, hafter⟩

namespace PagingClause

theorem isPlain_beforeDistinct (paging : PagingClause) : IsPlain paging.beforeDistinct := by
  cases paging
  case firstSkip first skip =>
    exact (isPlain_append _ _).2 ⟨isPlain_countClause (by decide) (by decide) first,
      isPlain_countClause (by decide) (by decide) skip⟩
  all_goals exact isPlain_empty

theorem isPlain_afterDistinct (paging : PagingClause) : IsPlain paging.afterDistinct := by
  cases paging
  case top count =>
    have htop : IsPlain "TOP " := by decide
    have hblank : IsPlain " " := by decide
    simp [afterDistinct, htop, hblank]
  all_goals exact isPlain_empty

theorem isPlain_orderFiller (paging : PagingClause) : IsPlain paging.orderFiller := by
  cases paging
  case fetchNext => exact (by decide : IsPlain " ORDER BY (SELECT NULL)")
  all_goals exact isPlain_empty

theorem isPlain_trailing (paging : PagingClause) : IsPlain paging.trailing := by
  have hrows : IsPlain " ROWS " := by decide
  cases paging
  case limitOffset limit offset =>
    refine (isPlain_append _ _).2 ⟨?_, isPlain_countClause (by decide) (by decide) offset⟩
    cases limit with
    | none => exact isPlain_empty
    | some n => exact (isPlain_append _ _).2 ⟨by decide, isPlain_toString_int n⟩
  case fetchNext offset count =>
    refine (isPlain_append _ _).2 ⟨?_, isPlain_countClause (by decide) (by decide) count⟩
    exact (isPlain_append _ _).2
      ⟨(isPlain_append _ _).2 ⟨by decide, isPlain_countText offset⟩, by decide⟩
  case fetchFirst offset count =>
    exact (isPlain_append _ _).2 ⟨isPlain_countClause (by decide) (by decide) offset,
      isPlain_countClause (by decide) (by decide) count⟩
  case rowsUpTo count => exact (isPlain_append _ _).2 ⟨hrows, isPlain_countText count⟩
  case rowsBetween lower upper =>
    refine (isPlain_append _ _).2 ⟨?_, isPlain_countText upper⟩
    exact (isPlain_append _ _).2
      ⟨(isPlain_append _ _).2 ⟨hrows, isPlain_countText lower⟩, by decide⟩
  all_goals exact isPlain_empty

end PagingClause

/-- **An ORDER BY clause of steady texts**, or the filler of the paging idiom. -/
theorem parallelClause_orderClause {ordering : List String} (h : ∀ s ∈ ordering, Steady d P s)
    (paging : PagingClause) :
    ParallelClause d P (orderClause ordering paging) (orderClause ordering paging) := by
  rw [orderClause]
  split
  · exact .plain paging.isPlain_orderFiller
  · exact .plain_append (by decide) (by decide) (Steady.intercalate (by decide) (by decide) h)

/-- A window of numbered rows around parallel queries. -/
theorem RowWindow.parallel_wrap (w : RowWindow) {sql sql' : String}
    (h : Parallel .oracle P sql sql') : Parallel .oracle P (w.wrap sql) (w.wrap sql') := by
  have hname : ∀ name, Steady .oracle P (Dialect.oracle.aliasName name) := parallel_aliasName
  have hinside := h.plain_append (p := "SELECT * FROM (") (by decide)
  cases w with
  | all => exact h
  | upTo upper =>
    exact (hinside.append_plain (by decide)).append_plain (isPlain_countText upper)
  | fromOn lower =>
    exact (hinside.append_plain (by decide)).append_plain (isPlain_countText lower)
  | between lower upper =>
    -- The inner query names the row numbers and cuts them off above, the outer one below.
    have hrows := ((hname "t0").plain_append (p := "SELECT * FROM (SELECT ") (by decide)).glue
      (p := ".*, ROWNUM AS ") (by decide) (by decide) (hname "rn")
    have hsource := (hrows.glue (p := " FROM (") (by decide) (by decide) h).glue
      (p := ") ") (by decide) (by decide) (hname "t0")
    have hupper := (hsource.append_plain (p := " WHERE ROWNUM <= ") (by decide)).append_plain
      (isPlain_countText upper)
    exact ((hupper.glue (p := ") WHERE ") (by decide) (by decide) (hname "rn")).append_plain
      (p := " >= ") (by decide)).append_plain (isPlain_countText lower)

/-- Bounds keep queries parallel, in every dialect. -/
theorem Dialect.parallel_window (limit offset : UInt64) {sql sql' : String}
    (h : Parallel d P sql sql') :
    Parallel d P (d.window limit offset sql) (d.window limit offset sql') := by
  cases d
  case oracle => exact (RowWindow.ofBounds limit offset).parallel_wrap h
  all_goals exact h

/-! ## Blocks -/

theorem JoinKind.isPlain_keyword (kind : JoinKind) : IsPlain kind.keyword := by
  cases kind <;> decide

theorem SetOperator.isPlain_keyword (op : SetOperator) : IsPlain op.keyword := by
  cases op <;> decide

/-- A join of steady texts. -/
structure Join.IsSteady (d : Dialect) (P : String → String → Prop) (j : Join) : Prop where
  /-- The table is steady. -/
  table : Steady d P j.table
  /-- The conditions are steady. -/
  conditions : ∀ s ∈ j.conditions, Steady d P s
  /-- The shared columns are steady. -/
  sharedColumns : ∀ s ∈ j.sharedColumns, Steady d P s

/-- A join of steady texts has a steady text. -/
theorem Join.IsSteady.render {j : Join} (h : j.IsSteady d P) : Steady d P j.render := by
  have hhead : Steady d P (j.kind.keyword ++ " " ++ j.table) :=
    h.table.plain_append ((isPlain_append _ _).2 ⟨j.kind.isPlain_keyword, by decide⟩)
  rw [Join.render]
  split
  · exact (hhead.glue (by decide) (by decide)
      (Steady.intercalate (by decide) (by decide) h.conditions)).append_plain (by decide)
  · split
    · exact (hhead.glue (by decide) (by decide)
        (Steady.intercalate (by decide) (by decide) h.sharedColumns)).append_plain (by decide)
    · exact hhead

/-- **Two blocks with the same clauses** of steady texts, but for alike predicate lists. -/
structure SelectBlock.Alike (d : Dialect) (P : String → String → Prop) (b b' : SelectBlock) :
    Prop where
  /-- The blocks differ in their predicate lists only. -/
  same : b' = { b with filter := b'.filter, having := b'.having }
  /-- The columns are steady. -/
  columns : ∀ s ∈ b.columns, Steady d P s
  /-- The sources are steady. -/
  sources : ∀ s ∈ b.sources, Steady d P s
  /-- The joins are steady. -/
  joins : ∀ j ∈ b.joins, j.IsSteady d P
  /-- The WHERE lists are alike. -/
  filter : b.filter.Alike d P b'.filter
  /-- The groups are steady. -/
  grouping : ∀ s ∈ b.grouping, Steady d P s
  /-- The HAVING lists are alike. -/
  having : b.having.Alike d P b'.having
  /-- The order is steady. -/
  ordering : ∀ s ∈ b.ordering, Steady d P s

namespace SelectBlock

variable {b b' : SelectBlock}

theorem Alike.empty : SelectBlock.Alike d P .empty .empty where
  same := rfl
  columns := by simp [SelectBlock.empty]
  sources := by simp [SelectBlock.empty]
  joins := by simp [SelectBlock.empty]
  filter := .empty
  grouping := by simp [SelectBlock.empty]
  having := .empty
  ordering := by simp [SelectBlock.empty]

/-- The head of a block of steady texts is steady. -/
theorem Alike.headText (h : b.Alike d P b') (paging : PagingClause) :
    Steady d P (b.headText d paging) := by
  have hcolumns : Steady d P b.columnText := by
    rw [columnText]
    split
    · exact .plain (by decide)
    · exact Steady.intercalate (by decide) (by decide) h.columns
  have hfrom : ParallelClause d P (b.fromClause d) (b.fromClause d) := by
    rw [fromClause]
    split
    · exact .plain_append (by decide) (by decide)
        (Steady.intercalate (by decide) (by decide) h.sources)
    · exact .plain (by cases d <;> decide)
  have hjoins : ParallelClause d P b.joinClause b.joinClause := by
    refine .join (List.forall₂_same.2 fun s hs => ?_)
    obtain ⟨j, hj, rfl⟩ := List.mem_map.1 hs
    exact .plain_append (by decide) (by decide) (h.joins j hj).render
  have hplain : IsPlain ("SELECT " ++ paging.beforeDistinct
      ++ (if b.distinct then "DISTINCT " else "") ++ paging.afterDistinct) := by
    simp only [isPlain_append]
    exact ⟨⟨⟨by decide, paging.isPlain_beforeDistinct⟩, .ite (by decide) (by decide)⟩,
      paging.isPlain_afterDistinct⟩
  exact ((hcolumns.plain_append hplain).append hfrom).append hjoins

/-- **Blocks that are alike fail for the same reason or have parallel texts.** -/
theorem Alike.render (h : b.Alike d P b') :
    ResultAlike (Parallel d P) (b.render d) (b'.render d) := by
  have hgroup : ParallelClause d P b.groupClause b.groupClause := by
    rw [groupClause]
    split
    · exact .plain isPlain_empty
    · exact .plain_append (by decide) (by decide)
        (Steady.intercalate (by decide) (by decide) h.grouping)
  rw [h.same]
  -- A fault of the WHERE list comes first, then one of the HAVING list; past them all is text.
  refine h.filter.whereClause.bind fun filter filter' hfilter => ?_
  refine h.having.havingClause.bind fun having having' hhaving => .ok ?_
  have horder := parallelClause_orderClause h.ordering (d.selectPaging b.limit b.offset)
  refine Dialect.parallel_window _ _ ?_
  have hhead := h.headText (d.selectPaging b.limit b.offset)
  have hordered := (((hhead.append hfilter).append hgroup).append hhaving).append horder
  exact hordered.append_plain (PagingClause.isPlain_trailing _)

end SelectBlock

/-! ## Queries -/

/-- Two queries behind the same set operator, with results that are alike. -/
def CombinedAlike (d : Dialect) (P : String → String → Prop) (part part' : SetOperator × Query) :
    Prop :=
  part.1 = part'.1 ∧ ResultAlike (Parallel d P) (part.2.render d) (part'.2.render d)

/-- The texts of combined queries that are alike. -/
theorem Query.renderParts_alike {parts parts' : List (SetOperator × Query)}
    (h : List.Forall₂ (CombinedAlike d P) parts parts') :
    ResultAlike (ParallelClause d P) (Query.renderParts d parts) (Query.renderParts d parts') := by
  induction h with
  | nil => exact .ok (.plain isPlain_empty)
  | @cons part part' parts parts' hpart hparts ih =>
    obtain ⟨hop, hresult⟩ := hpart
    have hplain : IsPlain (" " ++ part.1.keyword ++ " ") := by
      cases part.1 <;> decide
    have hfirst : ResultAlike (ParallelClause d P) (Query.renderPart d part)
        (Query.renderPart d part') := by
      obtain ⟨op, q⟩ := part
      obtain ⟨op', q'⟩ := part'
      obtain rfl : op = op' := hop
      exact hresult.bind fun _ _ hsql =>
        .ok (.plain_append hplain (by cases op <;> decide) hsql)
    exact hfirst.bind fun _ _ hsql => ih.bind fun _ _ hothers => .ok (hsql.append hothers)

/-- **Queries of alike parts fail for the same reason or have parallel texts.** -/
theorem Query.render_alike {q q' : Query} (hblock : q.block.Alike d P q'.block)
    (hcombined : List.Forall₂ (CombinedAlike d P) q.combined q'.combined) :
    ResultAlike (Parallel d P) (q.render d) (q'.render d) := by
  obtain ⟨block, combined⟩ := q
  obtain ⟨block', combined'⟩ := q'
  refine hblock.render.bind fun _ _ hown => ?_
  exact (Query.renderParts_alike hcombined).bind fun _ _ hrest => .ok (hown.append hrest)

end SqlBuilder
