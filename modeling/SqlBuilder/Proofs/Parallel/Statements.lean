import SqlBuilder.Proofs.Calls
import SqlBuilder.Proofs.Parallel.Change
import SqlBuilder.Proofs.Parallel.Insert

/-! # Parallel statements

Calls that are equal but for values of the same shape keep statements under construction alike: one
call at a time (`Select.Alike.apply` and its like), and so along any sequence of calls.  Alike
statements fail for the same reason or have parallel texts (`StatementCalls.Alike.text`). -/

namespace SqlBuilder

variable {d : Dialect} {P : String → String → Prop}

/-- A condition adds parallel predicates, or none. -/
theorem Condition.Alike.call {c c' : Condition} (h : c.Alike (Value.AlikeIn d P) c') :
    (c.call d).Alike (Parallel d P) (c'.call d) := by
  cases h with
  | compare c column op hv => exact .push c (parallel_comparison column op hv)
  | member column negated hvalues => exact .push .and (parallel_membership column negated hvalues)
  | between column negated hlow hhigh =>
    exact .push .and (parallel_between column negated hlow hhigh)
  | openGroup c => exact .openGroup c
  | closeGroup => exact .closeGroup

/-- Alike conditions keep predicate lists alike. -/
theorem Predicates.Alike.add {p p' : Predicates} (h : p.Alike d P p') {c c' : Condition}
    (hc : c.Alike (Value.AlikeIn d P) c') : (p.add d c).Alike d P (p'.add d c') :=
  h.apply hc.call

/-- The term of an order is steady. -/
theorem Dialect.steady_orderTerm (column : String) (order : SortOrder) :
    Steady d P (d.orderTerm column order) :=
  ((parallel_identifier column).append_plain (p := " ") (by decide)).append_plain
    (by cases order <;> decide)

/-! ## SELECT -/

/-- **Two SELECTs under construction that are alike**: with the same fault and alike queries. -/
structure Select.Alike (d : Dialect) (P : String → String → Prop) (s s' : Select) : Prop where
  /-- The first SELECT is written in the dialect. -/
  dialect : s.dialect = d
  /-- The second SELECT is written in the dialect. -/
  dialect' : s'.dialect = d
  /-- The faults are the same. -/
  misuse : s.misuse = s'.misuse
  /-- The clauses are alike. -/
  block : s.query.block.Alike d P s'.query.block
  /-- The combined queries are alike. -/
  combined : List.Forall₂ (CombinedAlike d P) s.query.combined s'.query.combined

namespace Select

variable {s s' : Select}

/-- Two new SELECTs are alike. -/
theorem Alike.new : Select.Alike d P (.new d) (.new d) := ⟨rfl, rfl, rfl, .empty, .nil⟩

/-- Changes that keep the clauses alike keep SELECTs alike. -/
theorem Alike.modifyBlock (h : s.Alike d P s') {f g : SelectBlock → SelectBlock}
    (hfg : (f s.query.block).Alike d P (g s'.query.block)) :
    (s.modifyBlock f).Alike d P (s'.modifyBlock g) :=
  ⟨h.dialect, h.dialect', h.misuse, hfg, h.combined⟩

/-- Steady columns keep SELECTs alike. -/
theorem Alike.addColumns (h : s.Alike d P s') {columns : List String}
    (hcolumns : ∀ c ∈ columns, Steady d P c) :
    (s.addColumns columns).Alike d P (s'.addColumns columns) :=
  h.modifyBlock { h.block with
    same := by rw [h.block.same]
    columns := List.forall_mem_append.2 ⟨h.block.columns, hcolumns⟩ }

/-- A join of a table is steady. -/
theorem Alike.join (h : s.Alike d P s') (t : TableRef) (kind : JoinKind) :
    (s.join t kind).Alike d P (s'.join t kind) := by
  rw [Select.join, Select.join, h.dialect, h.dialect']
  have hjoin : Join.IsSteady d P ⟨kind, t.render d, [], []⟩ :=
    ⟨parallel_tableRef t, by simp, by simp⟩
  exact h.modifyBlock { h.block with
    same := by rw [h.block.same]
    joins := List.forall_mem_append.2 ⟨h.block.joins, by simpa using hjoin⟩ }

/-- A change of the last join that keeps it steady keeps SELECTs alike, and so does the fault of a
missing join. -/
theorem Alike.modifyJoin (h : s.Alike d P s') (fault : ArgumentFault) {f : Join → Join}
    (hf : ∀ j, j.IsSteady d P → (f j).IsSteady d P) :
    (s.modifyJoin fault f).Alike d P (s'.modifyJoin fault f) := by
  have hjoins : s'.query.block.joins = s.query.block.joins := by rw [h.block.same]
  rw [Select.modifyJoin, Select.modifyJoin, hjoins]
  cases hlast : s.query.block.joins.getLast? with
  | none => exact { h with misuse := rfl }
  | some last =>
    -- The last join was steady, and its change stays so; the joins in front of it are as they were.
    have hmem : last ∈ s.query.block.joins := List.mem_of_getLast? hlast
    refine h.modifyBlock { h.block with same := ?_, joins := ?_ }
    · rw [h.block.same]
    · refine List.forall_mem_append.2 ⟨fun j hj => ?_, ?_⟩
      · exact h.block.joins j ((List.dropLast_sublist _).subset hj)
      · simpa using hf last (h.block.joins last hmem)

/-- A join condition keeps SELECTs alike. -/
theorem Alike.on (h : s.Alike d P s') (left : String) (op : Operator) (right : String) :
    (s.on left op right).Alike d P (s'.on left op right) := by
  have hcondition : Steady d P (d.identifier left ++ " " ++ op.keyword ++ " "
      ++ d.identifier right) :=
    ((((parallel_identifier left).append_plain (by decide)).append_plain
      op.isPlain_keyword).glue (by decide) (by decide) (parallel_identifier right))
  rw [Select.on, Select.on, h.dialect, h.dialect']
  exact h.modifyJoin _ fun j hj =>
    { hj with conditions := List.forall_mem_append.2 ⟨hj.conditions, by simpa using hcondition⟩ }

/-- A shared column keeps SELECTs alike. -/
theorem Alike.sharing (h : s.Alike d P s') (name : String) :
    (s.sharing name).Alike d P (s'.sharing name) := by
  have hname : Steady d P (d.identifier name) := parallel_identifier name
  rw [Select.sharing, Select.sharing, h.dialect, h.dialect']
  exact h.modifyJoin _ fun j hj =>
    { hj with sharedColumns := List.forall_mem_append.2 ⟨hj.sharedColumns, by simpa using hname⟩ }

/-- **A call that puts in names only keeps SELECTs alike.** -/
theorem Alike.apply_fixed (h : s.Alike d P s') {step : SelectStep} (hstep : step.isFixed = true) :
    (s.apply step).Alike d P (s'.apply step) := by
  have hname : ∀ name, Steady d P (d.identifier name) := parallel_identifier
  cases step with
  | distinct merged =>
    rw [Select.apply, Select.apply, Select.distinct, Select.distinct]
    exact h.modifyBlock { h.block with same := by rw [h.block.same] }
  | columns names =>
    simp only [Select.apply, Select.columns, h.dialect, h.dialect']
    refine h.addColumns fun c hc => ?_
    obtain ⟨name, -, rfl⟩ := List.mem_map.1 hc
    exact hname name
  | columnAs name aliasName =>
    have hcolumn := (hname name).glue (p := " AS ") (by decide) (by decide)
      (parallel_aliasName aliasName)
    simp only [Select.apply, Select.columnAs, h.dialect, h.dialect']
    exact h.addColumns (by simpa using hcolumn)
  | fromTable t =>
    have htable : Steady d P (t.render d) := parallel_tableRef t
    simp only [Select.apply, Select.fromTable, Select.fromRaw, h.dialect, h.dialect']
    exact h.modifyBlock { h.block with
      same := by rw [h.block.same]
      sources := List.forall_mem_append.2 ⟨h.block.sources, by simpa using htable⟩ }
  | join t kind => exact h.join t kind
  | on left op right => exact h.on left op right
  | sharing name => exact h.sharing name
  | groupBy name =>
    simp only [Select.apply, Select.groupBy, h.dialect, h.dialect']
    exact h.modifyBlock { h.block with
      same := by rw [h.block.same]
      grouping := List.forall_mem_append.2 ⟨h.block.grouping, by simpa using hname name⟩ }
  | orderBy name order =>
    have hterm : Steady d P (d.orderTerm name order) := Dialect.steady_orderTerm name order
    simp only [Select.apply, Select.orderBy, Select.orderByRaw, h.dialect, h.dialect']
    exact h.modifyBlock { h.block with
      same := by rw [h.block.same]
      ordering := List.forall_mem_append.2 ⟨h.block.ordering, by simpa using hterm⟩ }
  | limit n =>
    rw [Select.apply, Select.apply, Select.limit, Select.limit]
    exact h.modifyBlock { h.block with same := by rw [h.block.same] }
  | offset n =>
    rw [Select.apply, Select.apply, Select.offset, Select.offset]
    exact h.modifyBlock { h.block with same := by rw [h.block.same] }
  | reset =>
    simp only [Select.apply, Select.reset, h.dialect, h.dialect']
    exact .new
  | expression | fromRaw | filter | having | orderByRaw | combine => cases hstep

/-- Alike conditions of WHERE keep SELECTs alike. -/
theorem Alike.filter (h : s.Alike d P s') {c c' : Condition}
    (hc : c.Alike (Value.AlikeIn d P) c') : (s.filter c).Alike d P (s'.filter c') := by
  rw [Select.filter, Select.filter, h.dialect, h.dialect']
  exact h.modifyBlock { h.block with
    same := by rw [h.block.same]
    filter := h.block.filter.add hc }

/-- Alike conditions of HAVING keep SELECTs alike. -/
theorem Alike.having (h : s.Alike d P s') {c c' : Condition}
    (hc : c.Alike (Value.AlikeIn d P) c') : (s.having c).Alike d P (s'.having c') := by
  rw [Select.having, Select.having, h.dialect, h.dialect']
  exact h.modifyBlock { h.block with
    same := by rw [h.block.same]
    having := h.block.having.add hc }

/-- Alike SELECTs that are combined keep SELECTs alike. -/
theorem Alike.combine (h : s.Alike d P s') (op : SetOperator) {t t' : Select}
    (ht : t.Alike d P t') : (s.combine op t).Alike d P (s'.combine op t') :=
  ⟨h.dialect, h.dialect', h.misuse, h.block,
    List.rel_append h.combined (.cons ⟨rfl, Query.render_alike ht.block ht.combined⟩ .nil)⟩

mutual

/-- **Alike calls keep SELECTs alike.** -/
theorem Alike.apply : ∀ {step step' : SelectStep}, step.Alike d (Value.AlikeIn d P) step' →
    ∀ {s s' : Select}, s.Alike d P s' → (s.apply step).Alike d P (s'.apply step')
  | _, _, .fixed hstep, _, _, h => h.apply_fixed hstep
  | _, _, .filter hc, _, _, h => h.filter hc
  | _, _, .having hc, _, _, h => h.having hc
  | _, _, .combine op hsteps, _, _, h => h.combine op (Alike.run hsteps .new)

/-- **Alike sequences of calls keep SELECTs alike.** -/
theorem Alike.run : ∀ {steps steps' : List SelectStep},
    SelectStep.AllAlike d (Value.AlikeIn d P) steps steps' →
    ∀ {s s' : Select}, s.Alike d P s' → (s.run steps).Alike d P (s'.run steps')
  | _, _, .nil, _, _, h => h
  | _, _, .cons hstep hsteps, _, _, h => Alike.run hsteps (Alike.apply hstep h)

end

/-- Alike SELECTs fail for the same reason or have parallel texts. -/
theorem Alike.statement (h : s.Alike d P s') (terminated : Bool) :
    ResultAlike (Parallel d P) (s.statement terminated) (s'.statement terminated) := by
  rw [Select.statement, Select.statement, ← h.misuse, h.dialect, h.dialect']
  cases s.misuse with
  | some fault => exact .error _
  | none =>
    exact (Query.render_alike h.block h.combined).map fun _ _ => parallel_terminate terminated

end Select

/-! ## INSERT -/

/-- Two INSERTs under construction of alike rows. -/
structure Insert.Alike (d : Dialect) (P : String → String → Prop) (s s' : Insert) : Prop where
  /-- The first INSERT is written in the dialect. -/
  dialect : s.dialect = d
  /-- The second INSERT is written in the dialect. -/
  dialect' : s'.dialect = d
  /-- What was built is alike. -/
  data : s.data.Alike d P s'.data

namespace Insert

variable {s s' : Insert}

/-- Two new INSERTs are alike. -/
theorem Alike.new : Insert.Alike d P (.new d) (.new d) := ⟨rfl, rfl, rfl, rfl, .nil⟩

/-- Declared columns keep INSERTs alike. -/
theorem Alike.columns (h : s.Alike d P s') (names : List String) :
    (s.columns names).Alike d P (s'.columns names) := by
  rw [Insert.columns, Insert.columns]
  induction names generalizing s s' with
  | nil => exact h
  | cons name names ih =>
    refine ih ⟨h.dialect, h.dialect', h.data.target, ?_, h.data.rows⟩
    exact congrArg (InsertData.addColumn · name) h.data.columns

/-- Two lists of rows whose last rows get parallel values for a column. -/
theorem forall₂_putLast {rows rows' : List InsertRow} (h : List.Forall₂ (RowAlike d P) rows rows')
    (column : String) {sql sql' : String} (hsql : Parallel d P sql sql') :
    List.Forall₂ (RowAlike d P)
      (rows.dropLast ++ [Entries.put column sql (rows.getLast?.getD [])])
      (rows'.dropLast ++ [Entries.put column sql' (rows'.getLast?.getD [])]) := by
  induction h with
  | nil => exact .cons (RowAlike.put .nil column hsql) .nil
  | @cons row row' rows rows' hrow hrows ih =>
    cases hrows with
    | nil => exact .cons (hrow.put column hsql) .nil
    | cons hnext hrest =>
      rw [List.dropLast_cons_cons, List.dropLast_cons_cons, List.getLast?_cons_cons,
        List.getLast?_cons_cons]
      exact .cons hrow ih

/-- Values of the same shape keep INSERTs alike. -/
theorem Alike.value (h : s.Alike d P s') (column : String) {v v' : Value}
    (hv : v.AlikeIn d P v') : (s.value column v).Alike d P (s'.value column v') := by
  -- The value goes to the last row, which is a new one if there is none.
  have hrows : List.Forall₂ (RowAlike d P) (if s.data.rows.isEmpty then [[]] else s.data.rows)
      (if s'.data.rows.isEmpty then [[]] else s'.data.rows) := by
    rw [isEmpty_eq_of_forall₂ h.data.rows]
    split
    · exact .cons .nil .nil
    · exact h.data.rows
  rw [Insert.value, Insert.value, h.dialect, h.dialect']
  exact ⟨rfl, rfl, h.data.target, h.data.columns, forall₂_putLast hrows column hv.parallel⟩

/-- Alike rows keep INSERTs alike. -/
theorem Alike.row (h : s.Alike d P s') {cells cells' : List (String × Value)}
    (hcells : List.Forall₂ (fun cell cell' => cell.1 = cell'.1 ∧ cell.2.AlikeIn d P cell'.2)
      cells cells') : (s.row cells).Alike d P (s'.row cells') := by
  have hwritten : List.Forall₂ (CellAlike d P)
      (cells.map fun cell => (cell.1, d.literal cell.2))
      (cells'.map fun cell => (cell.1, d.literal cell.2)) := by
    rw [List.forall₂_map_left_iff, List.forall₂_map_right_iff]
    exact hcells.imp fun _ _ hcell => ⟨hcell.1, hcell.2.parallel⟩
  rw [Insert.row, Insert.row, h.dialect, h.dialect']
  exact ⟨rfl, rfl, h.data.target, h.data.columns,
    List.rel_append h.data.rows (.cons (RowAlike.ofPairs hwritten) .nil)⟩

/-- **Alike calls keep INSERTs alike.** -/
theorem Alike.apply (h : s.Alike d P s') {step step' : InsertStep}
    (hstep : step.Alike (Value.AlikeIn d P) step') :
    (s.apply step).Alike d P (s'.apply step') := by
  cases hstep with
  | into table => exact ⟨h.dialect, h.dialect', rfl, h.data.columns, h.data.rows⟩
  | columns names => exact h.columns names
  | value column hv => exact h.value column hv
  | row hcells => exact h.row hcells
  | nextRow =>
    exact ⟨h.dialect, h.dialect', h.data.target, h.data.columns,
      List.rel_append h.data.rows (.cons .nil .nil)⟩
  | reset =>
    simp only [Insert.apply, Insert.reset, h.dialect, h.dialect']
    exact .new

/-- **Alike sequences of calls keep INSERTs alike.** -/
theorem Alike.run (h : s.Alike d P s') {steps steps' : List InsertStep}
    (hsteps : List.Forall₂ (InsertStep.Alike (Value.AlikeIn d P)) steps steps') :
    (s.run steps).Alike d P (s'.run steps') := by
  rw [Insert.run, Insert.run]
  refine List.rel_foldl (P := Insert.Alike d P) (R := InsertStep.Alike (Value.AlikeIn d P)) ?_ h
    hsteps
  intro s s' hs step step' hstep
  exact hs.apply hstep

/-- Alike INSERTs fail for the same reason or have parallel texts. -/
theorem Alike.statement (h : s.Alike d P s') (terminated : Bool) :
    ResultAlike (Parallel d P) (s.statement terminated) (s'.statement terminated) := by
  rw [Insert.statement, Insert.statement, h.dialect, h.dialect']
  exact h.data.render.map fun _ _ => parallel_terminate terminated

end Insert

/-! ## UPDATE and DELETE -/

/-- A change of the scope keeps scopes alike. -/
theorem RowScope.Alike.apply {scope scope' : RowScope} (h : scope.Alike d P scope')
    {step step' : ScopeStep} (hstep : step.Alike (Value.AlikeIn d P) step') :
    (scope.apply d step).Alike d P (scope'.apply d step') := by
  cases hstep with
  | filter hc => exact ⟨by rw [h.same]; rfl, h.filter.add hc, h.ordering⟩
  | orderBy name order =>
    have hterm : Steady d P (d.orderTerm name order) := Dialect.steady_orderTerm name order
    exact ⟨by rw [h.same]; rfl, h.filter,
      List.forall_mem_append.2 ⟨h.ordering, by simpa using hterm⟩⟩
  | limit n => exact ⟨by rw [h.same]; rfl, h.filter, h.ordering⟩
  | offset n => exact ⟨by rw [h.same]; rfl, h.filter, h.ordering⟩

/-- Two UPDATEs under construction that are alike. -/
structure Update.Alike (d : Dialect) (P : String → String → Prop) (s s' : Update) : Prop where
  /-- The first UPDATE is written in the dialect. -/
  dialect : s.dialect = d
  /-- The second UPDATE is written in the dialect. -/
  dialect' : s'.dialect = d
  /-- What was built is alike. -/
  data : s.data.Alike d P s'.data

namespace Update

variable {s s' : Update}

/-- Two new UPDATEs are alike. -/
theorem Alike.new : Update.Alike d P (.new d) (.new d) := ⟨rfl, rfl, rfl, .nil, .all⟩

/-- **Alike calls keep UPDATEs alike.** -/
theorem Alike.apply (h : s.Alike d P s') {step step' : UpdateStep}
    (hstep : step.Alike (Value.AlikeIn d P) step') :
    (s.apply step).Alike d P (s'.apply step') := by
  cases hstep with
  | table t => exact ⟨h.dialect, h.dialect', rfl, h.data.assignments, h.data.scope⟩
  | set column hv =>
    simp only [Update.apply, Update.set, h.dialect, h.dialect']
    exact ⟨rfl, rfl, h.data.target, h.data.assignments.put column hv.parallel, h.data.scope⟩
  | scope hstep =>
    simp only [Update.apply, Update.modifyScope, h.dialect, h.dialect']
    exact ⟨rfl, rfl, h.data.target, h.data.assignments, h.data.scope.apply hstep⟩
  | reset =>
    simp only [Update.apply, Update.reset, h.dialect, h.dialect']
    exact .new

/-- **Alike sequences of calls keep UPDATEs alike.** -/
theorem Alike.run (h : s.Alike d P s') {steps steps' : List UpdateStep}
    (hsteps : List.Forall₂ (UpdateStep.Alike (Value.AlikeIn d P)) steps steps') :
    (s.run steps).Alike d P (s'.run steps') := by
  rw [Update.run, Update.run]
  refine List.rel_foldl (P := Update.Alike d P) (R := UpdateStep.Alike (Value.AlikeIn d P)) ?_ h
    hsteps
  intro s s' hs step step' hstep
  exact hs.apply hstep

/-- Alike UPDATEs fail for the same reason or have parallel texts. -/
theorem Alike.statement (h : s.Alike d P s') (terminated : Bool) :
    ResultAlike (Parallel d P) (s.statement terminated) (s'.statement terminated) := by
  rw [Update.statement, Update.statement, h.dialect, h.dialect']
  exact h.data.render.map fun _ _ => parallel_terminate terminated

end Update

/-- Two DELETEs under construction that are alike. -/
structure Delete.Alike (d : Dialect) (P : String → String → Prop) (s s' : Delete) : Prop where
  /-- The first DELETE is written in the dialect. -/
  dialect : s.dialect = d
  /-- The second DELETE is written in the dialect. -/
  dialect' : s'.dialect = d
  /-- What was built is alike. -/
  data : s.data.Alike d P s'.data

namespace Delete

variable {s s' : Delete}

/-- Two new DELETEs are alike. -/
theorem Alike.new : Delete.Alike d P (.new d) (.new d) := ⟨rfl, rfl, rfl, .all⟩

/-- **Alike calls keep DELETEs alike.** -/
theorem Alike.apply (h : s.Alike d P s') {step step' : DeleteStep}
    (hstep : step.Alike (Value.AlikeIn d P) step') :
    (s.apply step).Alike d P (s'.apply step') := by
  cases hstep with
  | fromTable t => exact ⟨h.dialect, h.dialect', rfl, h.data.scope⟩
  | scope hstep =>
    simp only [Delete.apply, Delete.modifyScope, h.dialect, h.dialect']
    exact ⟨rfl, rfl, h.data.target, h.data.scope.apply hstep⟩
  | reset =>
    simp only [Delete.apply, Delete.reset, h.dialect, h.dialect']
    exact .new

/-- **Alike sequences of calls keep DELETEs alike.** -/
theorem Alike.run (h : s.Alike d P s') {steps steps' : List DeleteStep}
    (hsteps : List.Forall₂ (DeleteStep.Alike (Value.AlikeIn d P)) steps steps') :
    (s.run steps).Alike d P (s'.run steps') := by
  rw [Delete.run, Delete.run]
  refine List.rel_foldl (P := Delete.Alike d P) (R := DeleteStep.Alike (Value.AlikeIn d P)) ?_ h
    hsteps
  intro s s' hs step step' hstep
  exact hs.apply hstep

/-- Alike DELETEs fail for the same reason or have parallel texts. -/
theorem Alike.statement (h : s.Alike d P s') (terminated : Bool) :
    ResultAlike (Parallel d P) (s.statement terminated) (s'.statement terminated) := by
  rw [Delete.statement, Delete.statement, h.dialect, h.dialect']
  exact h.data.render.map fun _ _ => parallel_terminate terminated

end Delete

/-! ## Statements of any kind -/

/-- **Alike calls build statements that fail for the same reason or have parallel texts.** -/
theorem StatementCalls.Alike.text {calls calls' : StatementCalls}
    (h : calls.Alike d (Value.AlikeIn d P) calls') (terminated : Bool) :
    ResultAlike (Parallel d P) ((calls.run d).text terminated)
      ((calls'.run d).text terminated) := by
  cases h with
  | select h => exact (Select.Alike.run h .new).statement terminated
  | insert h => exact (Insert.Alike.new.run h).statement terminated
  | update h => exact (Update.Alike.new.run h).statement terminated
  | delete h => exact (Delete.Alike.new.run h).statement terminated

end SqlBuilder
