import SqlBuilder.Proofs.Combination
import SqlBuilder.Proofs.Templates

/-! # Combined SELECTs of another dialect

A SELECT writes names and values when they are put in, and a combination takes over what is written.
So the second SELECT of a combination keeps its own quotes and literals, while the first decides on
everything around them: the bounds, the table that stands for none, the window of numbered rows.

`Select.IsTemplate.run` follows the same calls in all dialects at once, and
`Select.statement_combine_template` says what becomes of them in a combination: one template gives
the text for every dialect that may have written the fragments. -/

namespace SqlBuilder

variable {w : Stock}

/-! ## Clauses -/

/-- An ORDER BY clause is a template. -/
theorem isTemplate_orderClause {ordering : Dialect → List String}
    (h : EachElement w.IsTemplate ordering) (paging : PagingClause) :
    w.IsTemplate fun d => orderClause (ordering d) paging :=
  Stock.isTemplate_ite_isEmpty h (.plain paging.isPlain_orderFiller)
    ((Stock.isTemplate_intercalate (by decide) h).plain_append (by decide))

/-- The window of numbered rows is put around a text. -/
theorem RowWindow.isTemplate_wrap (houter : w.outer = .oracle) (window : RowWindow)
    {sql : Dialect → String} (h : w.IsTemplate sql) :
    w.IsTemplate fun d => window.wrap (sql d) := by
  have hname {name : String} (hname : name = "t0" ∨ name = "rn") :
      w.IsTemplate fun _ => Dialect.oracle.aliasName name := by
    rw [← houter]
    exact .window hname
  have hinside := h.plain_append (p := "SELECT * FROM (") (by decide)
  cases window with
  | all => exact h
  | upTo upper =>
    exact (hinside.append_plain (by decide)).append_plain (isPlain_countText upper)
  | fromOn lower =>
    exact (hinside.append_plain (by decide)).append_plain (isPlain_countText lower)
  | between lower upper =>
    -- The inner query names the row numbers and cuts them off above, the outer one below.
    have hinner := hname (.inl rfl)
    have hnumber := hname (.inr rfl)
    have hrows := ((hinner.plain_append (p := "SELECT * FROM (SELECT ") (by decide)).append_plain
      (p := ".*, ROWNUM AS ") (by decide)).append hnumber
    have hsource := (((hrows.append_plain (p := " FROM (") (by decide)).append h).append_plain
      (p := ") ") (by decide)).append hinner
    have hupper := (hsource.append_plain (p := " WHERE ROWNUM <= ") (by decide)).append_plain
      (isPlain_countText upper)
    exact (((hupper.append_plain (p := ") WHERE ") (by decide)).append hnumber).append_plain
      (p := " >= ") (by decide)).append_plain (isPlain_countText lower)

/-- The dialect of the statement bounds the text. -/
theorem Dialect.isTemplate_window (limit offset : UInt64) {sql : Dialect → String}
    (h : w.IsTemplate sql) : w.IsTemplate fun d => w.outer.window limit offset (sql d) := by
  cases houter : w.outer
  case oracle => exact (RowWindow.ofBounds limit offset).isTemplate_wrap houter h
  all_goals exact h

/-- **A join that is a template**, of the same kind in all dialects. -/
structure Join.IsTemplate (w : Stock) (j : Dialect → Join) : Prop where
  /-- The kind does not depend on the dialect. -/
  kind : ∃ kind, ∀ d, (j d).kind = kind
  /-- The table is a template. -/
  table : w.IsTemplate fun d => (j d).table
  /-- So are the conditions. -/
  conditions : EachElement w.IsTemplate fun d => (j d).conditions
  /-- So are the shared columns. -/
  sharedColumns : EachElement w.IsTemplate fun d => (j d).sharedColumns

/-- Such a join is a template as a text. -/
theorem Join.IsTemplate.render {j : Dialect → Join} (h : Join.IsTemplate w j) :
    w.IsTemplate fun d => (j d).render := by
  obtain ⟨kind, hkind⟩ := h.kind
  have hhead : w.IsTemplate fun d => kind.keyword ++ " " ++ (j d).table :=
    h.table.plain_append ((isPlain_append _ _).2 ⟨kind.isPlain_keyword, by decide⟩)
  have hon := ((hhead.append_plain (p := " ON (") (by decide)).append
    (Stock.isTemplate_intercalate (p := " AND ") (by decide) h.conditions)).append_plain
      (p := ")") (by decide)
  have husing := ((hhead.append_plain (p := " USING (") (by decide)).append
    (Stock.isTemplate_intercalate (p := ", ") (by decide) h.sharedColumns)).append_plain
      (p := ")") (by decide)
  have htext := Stock.isTemplate_ite_isEmpty h.conditions
    (Stock.isTemplate_ite_isEmpty h.sharedColumns hhead husing) hon
  simpa only [Join.render, hkind, Bool.not_eq_true', ← Bool.not_eq_true, ite_not] using htext

/-! ## Blocks -/

/-- **A block that is a template** clause by clause. -/
structure SelectBlock.IsTemplate (w : Stock) (b : Dialect → SelectBlock) : Prop where
  /-- Equal rows are merged in all dialects or in none. -/
  distinct : ∃ merged, ∀ d, (b d).distinct = merged
  /-- The columns are templates. -/
  columns : EachElement w.IsTemplate fun d => (b d).columns
  /-- So are the sources. -/
  sources : EachElement w.IsTemplate fun d => (b d).sources
  /-- So are the joins. -/
  joins : EachElement (Join.IsTemplate w) fun d => (b d).joins
  /-- So is the WHERE list. -/
  filter : Predicates.IsTemplate w fun d => (b d).filter
  /-- So is the GROUP BY list. -/
  grouping : EachElement w.IsTemplate fun d => (b d).grouping
  /-- So is the HAVING list. -/
  having : Predicates.IsTemplate w fun d => (b d).having
  /-- So is the ORDER BY list. -/
  ordering : EachElement w.IsTemplate fun d => (b d).ordering
  /-- The number of rows to keep does not depend on the dialect. -/
  limit : ∃ limit, ∀ d, (b d).limit = limit
  /-- Nor does the number of rows to skip. -/
  offset : ∃ offset, ∀ d, (b d).offset = offset

namespace SelectBlock

variable {b : Dialect → SelectBlock}

/-- The block without clauses. -/
theorem IsTemplate.empty : SelectBlock.IsTemplate w fun _ => .empty :=
  ⟨⟨_, fun _ => rfl⟩, .nil, .nil, .nil, .nil, .nil, .nil, .nil, ⟨_, fun _ => rfl⟩,
    ⟨_, fun _ => rfl⟩⟩

/-- The head of such a block in a statement. -/
theorem IsTemplate.headText (h : SelectBlock.IsTemplate w b) (paging : PagingClause) :
    w.IsTemplate fun d => (b d).headText w.outer paging := by
  obtain ⟨merged, hmerged⟩ := h.distinct
  have hcolumns : w.IsTemplate fun d => (b d).columnText :=
    Stock.isTemplate_ite_isEmpty h.columns (.plain (by decide))
      (Stock.isTemplate_intercalate (by decide) h.columns)
  have hfrom : w.IsTemplate fun d => (b d).fromClause w.outer := by
    simp only [fromClause, Bool.not_eq_true', ← Bool.not_eq_true, ite_not]
    exact Stock.isTemplate_ite_isEmpty h.sources (.plain (by cases w.outer <;> decide))
      ((Stock.isTemplate_intercalate (by decide) h.sources).plain_append (by decide))
  have hjoins : w.IsTemplate fun d => (b d).joinClause :=
    Stock.isTemplate_join (h.joins.map fun _ hj => hj.render.plain_append (by decide))
  have hplain : IsPlain ("SELECT " ++ paging.beforeDistinct
      ++ (if merged then "DISTINCT " else "") ++ paging.afterDistinct) := by
    simp only [isPlain_append]
    exact ⟨⟨⟨by decide, paging.isPlain_beforeDistinct⟩, .ite (by decide) (by decide)⟩,
      paging.isPlain_afterDistinct⟩
  simp only [SelectBlock.headText, hmerged]
  exact ((hcolumns.plain_append hplain).append hfrom).append hjoins

/-- **A block has the same fault in all dialects, or its text is a template.** -/
theorem IsTemplate.render (h : SelectBlock.IsTemplate w b) :
    SucceedsInAll w.IsTemplate fun d => (b d).render w.outer := by
  obtain ⟨limit, hlimit⟩ := h.limit
  obtain ⟨offset, hoffset⟩ := h.offset
  have hgroup : w.IsTemplate fun d => (b d).groupClause :=
    Stock.isTemplate_ite_isEmpty h.grouping (.plain isPlain_empty)
      ((Stock.isTemplate_intercalate (by decide) h.grouping).plain_append (by decide))
  have horder := isTemplate_orderClause h.ordering (w.outer.selectPaging limit offset)
  have hhead := h.headText (w.outer.selectPaging limit offset)
  simp only [SelectBlock.render, hlimit, hoffset]
  -- A fault of the WHERE list comes first, then one of the HAVING list.
  refine (h.filter.clause (by decide)).bind fun filter hfilter => ?_
  refine (h.having.clause (by decide)).bind fun having hhaving => .ok ?_
  exact Dialect.isTemplate_window limit offset
    (((((hhead.append hfilter).append hgroup).append hhaving).append horder).append_plain
      (PagingClause.isPlain_trailing _))

end SelectBlock

/-! ## Building calls -/

/-- The fragments that a call puts into a SELECT.  A combined SELECT has its own. -/
def SelectStep.fragments : SelectStep → List Fragment
  | .columns names => names.map .name
  | .columnAs name aliasName => [.name name, .aliasName aliasName]
  | .expression sql aliasName => .sql sql :: (aliasName.map .aliasName).toList
  | .fromTable t | .join t _ => [.table t]
  | .fromRaw sql | .orderByRaw sql => [.sql sql]
  | .on left _ right => [.name left, .name right]
  | .sharing name | .groupBy name | .orderBy name _ => [.name name]
  | .filter c | .having c => c.fragments
  | .distinct _ | .limit _ | .offset _ | .combine _ _ _ | .reset => []

namespace Select

/-- **A SELECT that is a template**: each dialect has written the block in its own way, and the
combined SELECTs and the fault are the same in all of them. -/
inductive IsTemplate (w : Stock) : (Dialect → Select) → Prop where
  /-- Only the block depends on the dialect. -/
  | intro {b : Dialect → SelectBlock} (h : SelectBlock.IsTemplate w b)
      (combined : List (SetOperator × Query)) (misuse : Option ArgumentFault) :
    IsTemplate w fun d => ⟨d, ⟨b d, combined⟩, misuse⟩

namespace IsTemplate

variable {s : Dialect → Select}

/-- A SELECT without clauses. -/
theorem new (w : Stock) : IsTemplate w Select.new := .intro .empty [] none

/-- A change of the last join, or the same fault. -/
theorem modifyJoin (h : IsTemplate w s) (fault : ArgumentFault) {f : Dialect → Join → Join}
    (hf : ∀ j, Join.IsTemplate w j → Join.IsTemplate w fun d => f d (j d)) :
    IsTemplate w fun d => (s d).modifyJoin fault (f d) := by
  cases h with
  | @intro b h combined misuse =>
    rcases h.joins.eq_nil_or_concat with hnil | ⟨init, last, hinit, hlast, hconcat⟩
    · simp only [Select.modifyJoin, hnil, List.getLast?_nil]
      exact .intro h combined (some fault)
    · simp only [Select.modifyJoin, hconcat, List.getLast?_concat, Select.modifyBlock,
        List.dropLast_concat]
      have hjoins := hinit.concat (hf last hlast)
      have hblock : SelectBlock.IsTemplate w
          fun d => { b d with joins := init d ++ [f d (last d)] } := { h with joins := hjoins }
      exact .intro hblock combined misuse

/-- **The same call in all dialects.** -/
theorem apply (h : IsTemplate w s) {step : SelectStep}
    (hstep : ∀ f ∈ step.fragments, w.fragment f) : IsTemplate w fun d => (s d).apply step := by
  -- Most calls change the block alone; a change of the last join is one of the SELECT as a whole.
  have hs := h
  cases h with
  | @intro b h combined misuse =>
    have hown (f : Fragment) (hf : f ∈ step.fragments) : w.IsTemplate fun d => f.text d :=
      .own (hstep f hf)
    have hwith {b' : Dialect → SelectBlock} (h' : SelectBlock.IsTemplate w b') :
        IsTemplate w fun d => ⟨d, ⟨b' d, combined⟩, misuse⟩ := .intro h' combined misuse
    cases step with
    | distinct merged =>
      exact hwith { h with distinct := ⟨merged, fun _ => rfl⟩ }
    | columns names =>
      have hnames : EachElement w.IsTemplate fun d => names.map d.identifier :=
        .of_map fun name hname => hown (.name name) (List.mem_map_of_mem hname)
      exact hwith { h with columns := h.columns.append hnames }
    | columnAs name aliasName =>
      have hname := hown (.name name) (by simp [SelectStep.fragments])
      have halias := hown (.aliasName aliasName) (by simp [SelectStep.fragments])
      have hcolumn := (hname.append_plain (p := " AS ") (by decide)).append halias
      exact hwith { h with columns := h.columns.concat hcolumn }
    | expression sql aliasName =>
      have hsql := hown (.sql sql) (by simp [SelectStep.fragments])
      cases aliasName with
      | none => exact hwith { h with columns := h.columns.concat hsql }
      | some aliasName =>
        have halias := hown (.aliasName aliasName) (by simp [SelectStep.fragments])
        have hcolumn := (hsql.append_plain (p := " AS ") (by decide)).append halias
        exact hwith { h with columns := h.columns.concat hcolumn }
    | fromTable t =>
      have ht := hown (.table t) (by simp [SelectStep.fragments])
      exact hwith { h with sources := h.sources.concat ht }
    | fromRaw sql =>
      have hsql := hown (.sql sql) (by simp [SelectStep.fragments])
      exact hwith { h with sources := h.sources.concat hsql }
    | join t kind =>
      have ht := hown (.table t) (by simp [SelectStep.fragments])
      have hjoin : Join.IsTemplate w fun d => ⟨kind, t.render d, [], []⟩ :=
        ⟨⟨kind, fun _ => rfl⟩, ht, .nil, .nil⟩
      exact hwith { h with joins := h.joins.concat hjoin }
    | on left op right =>
      have hleft := hown (.name left) (by simp [SelectStep.fragments])
      have hright := hown (.name right) (by simp [SelectStep.fragments])
      have hcondition := (((hleft.append_plain (p := " ") (by decide)).append_plain
        op.isPlain_keyword).append_plain (p := " ") (by decide)).append hright
      exact hs.modifyJoin .conditionWithoutJoin fun _ hj =>
        { hj with conditions := hj.conditions.concat hcondition }
    | sharing name =>
      have hname := hown (.name name) (by simp [SelectStep.fragments])
      exact hs.modifyJoin .sharedColumnWithoutJoin fun _ hj =>
        { hj with sharedColumns := hj.sharedColumns.concat hname }
    | filter c => exact hwith { h with filter := h.filter.add hstep }
    | having c => exact hwith { h with having := h.having.add hstep }
    | groupBy name =>
      have hname := hown (.name name) (by simp [SelectStep.fragments])
      exact hwith { h with grouping := h.grouping.concat hname }
    | orderBy name order =>
      have hname := hown (.name name) (by simp [SelectStep.fragments])
      have horder : IsPlain order.keyword := by cases order <;> decide
      have hterm := (hname.append_plain (p := " ") (by decide)).append_plain horder
      exact hwith { h with ordering := h.ordering.concat hterm }
    | orderByRaw sql =>
      have hsql := hown (.sql sql) (by simp [SelectStep.fragments])
      exact hwith { h with ordering := h.ordering.concat hsql }
    | limit n => exact hwith { h with limit := ⟨n, fun _ => rfl⟩ }
    | offset n => exact hwith { h with offset := ⟨n, fun _ => rfl⟩ }
    | combine op dialect steps =>
      exact .intro h (combined ++ [(op, ((Select.new dialect).run steps).query)]) misuse
    | reset => exact .new w

/-- **The same calls in all dialects.** -/
theorem run {steps : List SelectStep} (h : IsTemplate w s)
    (hsteps : ∀ step ∈ steps, ∀ f ∈ step.fragments, w.fragment f) :
    IsTemplate w fun d => (s d).run steps := by
  induction steps generalizing s with
  | nil => exact h
  | cons step steps ih =>
    obtain ⟨hstep, hrest⟩ := List.forall_mem_cons.1 hsteps
    exact ih (h.apply hstep) hrest

end IsTemplate

/-- The texts of combined SELECTs are a template. -/
theorem isTemplate_renderParts {parts : List (SetOperator × Query)} (hparts : ∀ part ∈ parts,
      ∀ sql, part.2.render w.outer = .ok sql → w.part sql) :
    SucceedsInAll w.IsTemplate fun _ => Query.renderParts w.outer parts := by
  induction parts with
  | nil => exact .ok (.plain isPlain_empty)
  | cons part rest ih =>
    obtain ⟨hpart, hrest⟩ := List.forall_mem_cons.1 hparts
    obtain ⟨op, q⟩ := part
    have hplain : IsPlain (" " ++ op.keyword ++ " ") := by cases op <;> decide
    have hfirst : SucceedsInAll w.IsTemplate fun _ => Query.renderPart w.outer (op, q) := by
      rw [Query.renderPart_mk]
      cases hsql : q.render w.outer with
      | error e => exact .error e
      | ok sql => exact .ok ((Stock.IsTemplate.part (hpart sql hsql)).plain_append hplain)
    exact hfirst.bind fun _ hsql => (ih hrest).bind fun _ hothers => .ok (hsql.append hothers)

/-- **Such a SELECT has the same fault in all dialects when it stands in a statement, or its text is
a template.** -/
theorem IsTemplate.render {s : Dialect → Select} (h : IsTemplate w s) (d : Dialect)
    (hparts : ∀ part ∈ (s d).query.combined, ∀ sql, part.2.render w.outer = .ok sql → w.part sql) :
    SucceedsInAll w.IsTemplate fun d => (s d).query.render w.outer := by
  cases h with
  | intro h combined misuse =>
    exact h.render.bind fun _ hown => (isTemplate_renderParts hparts).bind fun _ hrest =>
      .ok (hown.append hrest)

/-! ## Combinations -/

/-- The text of a combination in terms of the query that is taken over. -/
theorem statement_combine_query (a b : Select) (op : SetOperator) :
    (a.combine op b).statement false = do
      let x ← a.statement false
      let y ← b.query.render a.dialect
      return x ++ " " ++ op.keyword ++ " " ++ y := by
  have hstatement := statement_combine_eq (a := a) (b := ⟨a.dialect, b.query, none⟩) rfl op
  rwa [statement_of_misuse_eq_none (s := forgiven _) rfl] at hstatement

/-- A text that calls for a combined SELECT leave in a statement of the dialect `outer`, as a
template: its fragments are those that the calls put in, and its parts are the SELECTs that they
combine. -/
def IsTemplateOfCalls (outer : Dialect) (steps : List SelectStep) (template : Template) : Prop :=
  template.ConsistsOf (· ∈ steps.flatMap SelectStep.fragments) fun text =>
    ∃ part ∈ ((new outer).run steps).query.combined, part.2.render outer = .ok text

/-- **A combined SELECT is written in the dialect of the statement but for its fragments**, which
stay as its own dialect wrote them when they were put in.  Whatever dialect that is, the combination
fails for the same reason, or its text is that of the same template behind the first SELECT and the
operator.  So there is no difference to a SELECT of the dialect of the statement if both dialects
write all fragments alike. -/
theorem statement_combine_template (a : Select) (op : SetOperator) (steps : List SelectStep) :
    ((∃ e, ∀ d, (a.combine op ((new d).run steps)).statement false = .error e) ∨
      ∃ x template, a.statement false = .ok x ∧ IsTemplateOfCalls a.dialect steps template ∧
        ∀ d, (a.combine op ((new d).run steps)).statement false
          = .ok (x ++ " " ++ op.keyword ++ " " ++ template.fill a.dialect d)) ∧
    ∀ d, (∀ f ∈ steps.flatMap SelectStep.fragments, f.text d = f.text a.dialect) →
      (a.combine op ((new d).run steps)).statement false
        = (a.combine op ((new a.dialect).run steps)).statement false := by
  let w : Stock := ⟨a.dialect, (· ∈ steps.flatMap SelectStep.fragments), fun text =>
    ∃ part ∈ ((new a.dialect).run steps).query.combined, part.2.render a.dialect = .ok text⟩
  have hrun : IsTemplate w fun d => (new d).run steps :=
    (IsTemplate.new w).run fun step hstep f hf => List.mem_flatMap.2 ⟨step, hstep, hf⟩
  have hrender := hrun.render a.dialect fun part hpart sql hsql => ⟨part, hpart, hsql⟩
  have htemplate : (∃ e, ∀ d, (a.combine op ((new d).run steps)).statement false = .error e) ∨
      ∃ x template, a.statement false = .ok x ∧ IsTemplateOfCalls a.dialect steps template ∧
        ∀ d, (a.combine op ((new d).run steps)).statement false
          = .ok (x ++ " " ++ op.keyword ++ " " ++ template.fill a.dialect d) := by
    simp only [statement_combine_query]
    -- A fault of the first SELECT comes before one of the second.
    cases a.statement false with
    | error e => exact .inl ⟨e, fun _ => rfl⟩
    | ok x =>
      rcases hrender.error_or_ok with ⟨e, he⟩ | ⟨y, ⟨template, hconsists, hfill⟩, hy⟩
      · exact .inl ⟨e, fun d => by rw [he]; rfl⟩
      · exact .inr ⟨x, template, rfl, hconsists, fun d => by rw [hy, hfill]; rfl⟩
  refine ⟨htemplate, fun d halike => ?_⟩
  rcases htemplate with ⟨e, he⟩ | ⟨x, template, -, hconsists, htext⟩
  · rw [he, he]
  · rw [htext, htext, Template.fill_congr hconsists halike]

/-- Calls that put a name, a value and a table into a SELECT. -/
def quotedCalls : List SelectStep :=
  [.fromTable ⟨"b", none⟩, .filter (.compare .and "x" .equal (.text "it's"))]

/-- **A combined SELECT keeps its quotes**: the name and the value of a part stand in the statement
as another dialect writes them. -/
theorem statement_combine_of_foreign_part :
    let text (d : Dialect) :=
      ((ofTable "a").combine .union ((new d).run quotedCalls)).statement false
    text .mySql
        = .ok "SELECT * FROM \"a\" UNION SELECT * FROM \x60b\x60 WHERE \x60x\x60 = 'it\\'s'" ∧
      text .standard
        = .ok "SELECT * FROM \"a\" UNION SELECT * FROM \"b\" WHERE \"x\" = 'it''s'" ∧
      text .mySql ≠ text .standard := by
  intro text
  exact ⟨by decide +kernel, by decide +kernel, by decide +kernel⟩

end Select

end SqlBuilder
