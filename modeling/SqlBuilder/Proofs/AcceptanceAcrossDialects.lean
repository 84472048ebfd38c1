import SqlBuilder.Proofs.Acceptance

/-! # Acceptance does not depend on the dialect

The same calls make statements that differ in their texts from dialect to dialect: in quotes and
literals, and in what bounds them.  They have the same parentheses, joins, columns and targets, step
by step (`Select.SameOutline` and its kin), so they are accepted in all dialects or in none
(`accepted_iff_isComplete`).  Skipping rows in a change, which two dialects cannot do, is the only
exception. -/

namespace SqlBuilder

variable {d d' : Dialect}

/-! ## Predicate lists -/

/-- A token without the text of its predicate. -/
def PredicateToken.outline : PredicateToken → PredicateToken
  | .predicate _ => .predicate ""
  | t => t

namespace Predicates

variable {p p' : Predicates}

/-- **Two lists that differ in the texts of their predicates** and in connectors at most. -/
def SameOutline (p p' : Predicates) : Prop :=
  p.terms.map (fun t => t.token.outline) = p'.terms.map fun t => t.token.outline

/-- The texts of predicates do not matter for the parentheses. -/
theorem groupFault_map_outline (depth : Nat) (afterOpening : Bool) (tokens : List PredicateToken) :
    groupFault depth afterOpening (tokens.map PredicateToken.outline)
      = groupFault depth afterOpening tokens := by
  fun_induction groupFault depth afterOpening tokens with
  | case1 | case2 => simp_all [groupFault]
  | case3 depth afterOpening rest ih => simpa [PredicateToken.outline, groupFault] using ih
  | case4 | case5 => simp_all [PredicateToken.outline, groupFault]
  | case6 depth afterOpening rest hdepth hafter ih =>
    simpa [PredicateToken.outline, groupFault, hdepth, hafter] using ih
  | case7 depth afterOpening sql rest ih => simpa [PredicateToken.outline, groupFault] using ih

/-- Such lists have texts, or neither has. -/
theorem SameOutline.renders_iff (h : p.SameOutline p') : p.Renders ↔ p'.Renders := by
  have houtline : ∀ q : Predicates, q.Renders ↔
      groupFault 0 false (q.terms.map fun t => t.token.outline) = none := by
    intro q
    have hmap : q.terms.map (fun t => t.token.outline)
        = (q.terms.map PredicateTerm.token).map PredicateToken.outline := by simp
    rw [q.renders_iff, hmap, groupFault_map_outline]
  rw [houtline, houtline, h]

/-- One more term on each side keeps the outline, if the tokens have the same. -/
theorem SameOutline.snoc (h : p.SameOutline p') {t t' : PredicateTerm}
    (ht : t.token.outline = t'.token.outline) :
    SameOutline ⟨p.terms ++ [t]⟩ ⟨p'.terms ++ [t']⟩ := by
  rw [SameOutline, List.map_append, List.map_append, h]
  simp [ht]

/-- Predicates keep the outline, whatever their texts. -/
theorem SameOutline.push (h : p.SameOutline p') (connector : Connector) (sql sql' : String) :
    (p.push connector sql).SameOutline (p'.push connector sql') := h.snoc rfl

/-- The same condition in two dialects keeps the outline. -/
theorem SameOutline.add (h : p.SameOutline p') (c : Condition) :
    (p.add d c).SameOutline (p'.add d' c) := by
  cases c with
  | compare connector column op v => exact h.push connector _ _
  | member column values negated => exact h.push .and _ _
  | between column low high negated => exact h.push .and _ _
  | raw connector sql => exact h.push connector sql sql
  | openGroup connector => exact h.snoc rfl
  | closeGroup => exact h.snoc rfl

end Predicates

/-! ## SELECT -/

/-- **Two SELECTs with the same parentheses**, of which combined queries are accepted alike. -/
structure Select.SameOutline (s s' : Select) : Prop where
  /-- The WHERE lists have the same outline. -/
  filter : s.query.block.filter.SameOutline s'.query.block.filter
  /-- The HAVING lists have the same outline. -/
  having : s.query.block.having.SameOutline s'.query.block.having
  /-- The lists of the combined queries have texts alike. -/
  combined : List.Forall₂ (fun part part' => part.2.ListsRender ↔ part'.2.ListsRender)
    s.query.combined s'.query.combined

namespace Select

variable {s s' : Select}

/-- A change of the last join leaves the lists alone. -/
theorem SameOutline.modifyJoin (h : s.SameOutline s') (fault : ArgumentFault) (f f' : Join → Join) :
    (s.modifyJoin fault f).SameOutline (s'.modifyJoin fault f') := by
  have hleft : (s.modifyJoin fault f).SameOutline s' := by
    rw [Select.modifyJoin]
    split
    · exact ⟨h.filter, h.having, h.combined⟩
    · exact ⟨h.filter, h.having, h.combined⟩
  rw [Select.modifyJoin.eq_def s']
  split
  · exact ⟨hleft.filter, hleft.having, hleft.combined⟩
  · exact ⟨hleft.filter, hleft.having, hleft.combined⟩

/-- SELECTs with the same outline have lists with texts, or neither has. -/
theorem SameOutline.listsRender_iff (h : s.SameOutline s') :
    s.query.ListsRender ↔ s'.query.ListsRender := by
  have hparts : (∀ part ∈ s.query.combined, part.2.ListsRender) ↔
      ∀ part ∈ s'.query.combined, part.2.ListsRender := by
    have hcombined := h.combined
    generalize s.query.combined = parts at hcombined
    generalize s'.query.combined = parts' at hcombined
    induction hcombined with
    | nil => simp
    | cons hpart _ ih =>
      rw [List.forall_mem_cons, List.forall_mem_cons]
      exact and_congr hpart ih
  rw [Query.listsRender_iff, Query.listsRender_iff, h.filter.renders_iff, h.having.renders_iff,
    hparts]

/-- Two new SELECTs have the same outline. -/
theorem SameOutline.new (d d' : Dialect) : SameOutline (.new d) (.new d') := ⟨rfl, rfl, .nil⟩

mutual

/-- **The same call in two dialects keeps the outline.** -/
theorem SameOutline.apply : ∀ (step : SelectStep) {s s' : Select}, s.SameOutline s' →
    (s.apply step).SameOutline (s'.apply step)
  | .filter c, _, _, h => ⟨h.filter.add c, h.having, h.combined⟩
  | .having c, _, _, h => ⟨h.filter, h.having.add c, h.combined⟩
  | .on _ _ _, _, _, h => h.modifyJoin ..
  | .sharing _, _, _, h => h.modifyJoin ..
  | .combine _ dialect steps, _, _, h =>
    ⟨h.filter, h.having, List.rel_append h.combined (.cons
      (SameOutline.run steps (.new dialect dialect)).listsRender_iff .nil)⟩
  | .reset, s, s', _ => .new s.dialect s'.dialect
  | .distinct _, _, _, h | .columns _, _, _, h | .columnAs _ _, _, _, h
  | .expression _ _, _, _, h | .fromTable _, _, _, h | .fromRaw _, _, _, h | .join _ _, _, _, h
  | .groupBy _, _, _, h | .orderBy _ _, _, _, h | .orderByRaw _, _, _, h | .limit _, _, _, h
  | .offset _, _, _, h => ⟨h.filter, h.having, h.combined⟩

/-- **The same calls in two dialects keep the outline.** -/
theorem SameOutline.run : ∀ (steps : List SelectStep) {s s' : Select}, s.SameOutline s' →
    (s.run steps).SameOutline (s'.run steps)
  | [], _, _, h => h
  | step :: steps, _, _, h => SameOutline.run steps (SameOutline.apply step h)

end

end Select

/-! ## INSERT -/

/-- **Two INSERTs into the same table** with the same declared columns and the same empty rows. -/
structure Insert.SameOutline (s s' : Insert) : Prop where
  /-- The tables are the same. -/
  target : s.data.target = s'.data.target
  /-- The declared columns are the same. -/
  columns : s.data.columns = s'.data.columns
  /-- The same rows are empty. -/
  rows : s.data.rows.map List.isEmpty = s'.data.rows.map List.isEmpty

namespace Insert

variable {s s' : Insert}

/-- INSERTs with the same outline are complete, or neither is. -/
theorem SameOutline.isComplete_iff (h : s.SameOutline s') :
    s.data.IsComplete ↔ s'.data.IsComplete := by
  have hsome : ∀ data : InsertData, data.rows ≠ [] ↔ data.rows.map List.isEmpty ≠ [] := by simp
  have hcells : ∀ data : InsertData,
      (∃ row ∈ data.rows, row ≠ []) ↔ false ∈ data.rows.map List.isEmpty := by
    intro data
    simp [List.isEmpty_eq_false_iff]
  rw [InsertData.IsComplete, InsertData.IsComplete, hsome, hsome, hcells, hcells, h.target,
    h.columns, h.rows]

/-- Declared columns keep the outline. -/
theorem SameOutline.declare (h : s.SameOutline s') (names : List String) :
    (s.columns names).SameOutline (s'.columns names) := by
  rw [Insert.columns, Insert.columns]
  induction names generalizing s s' with
  | nil => exact h
  | cons name names ih =>
    exact ih ⟨h.target, congrArg (InsertData.addColumn · name) h.columns, h.rows⟩

/-- A row with a value in it is not empty. -/
theorem isEmpty_put (column sql : String) (row : InsertRow) :
    List.isEmpty (Entries.put column sql row) = false := by
  cases row with
  | nil => rfl
  | cons cell rest =>
    rw [Entries.put]
    split <;> rfl

/-- The same value in two dialects keeps the outline. -/
theorem SameOutline.value (h : s.SameOutline s') (column : String) (v : Value) :
    (s.value column v).SameOutline (s'.value column v) := by
  -- The last row gets a value, and the first value makes the first row.
  have hrows : ∀ t : Insert, (t.value column v).data.rows.map List.isEmpty
      = (t.data.rows.map List.isEmpty).dropLast ++ [false] := by
    intro t
    obtain ⟨d, target, columns, rows⟩ := t
    cases rows <;> simp [Insert.value, isEmpty_put, List.map_dropLast]
  exact ⟨h.target, h.columns, by rw [hrows, hrows, h.rows]⟩

/-- A row is empty iff it has no cells. -/
theorem isEmpty_ofPairs (cells : List (String × String)) :
    List.isEmpty (Entries.ofPairs cells) = cells.isEmpty := by
  induction cells using List.reverseRecOn with
  | nil => rfl
  | append_singleton cells cell ih =>
    rw [Entries.ofPairs, List.foldl_append, List.foldl_cons, List.foldl_nil, isEmpty_put]
    simp

/-- **The same call in two dialects keeps the outline.** -/
theorem SameOutline.apply (h : s.SameOutline s') (step : InsertStep) :
    (s.apply step).SameOutline (s'.apply step) := by
  cases step with
  | into table => exact ⟨rfl, h.columns, h.rows⟩
  | columns names => exact h.declare names
  | value column v => exact h.value column v
  | row cells =>
    refine ⟨h.target, h.columns, ?_⟩
    simp only [Insert.apply, Insert.row, List.map_append, h.rows]
    simp [isEmpty_ofPairs]
  | nextRow =>
    refine ⟨h.target, h.columns, ?_⟩
    simp only [Insert.apply, Insert.nextRow, List.map_append, h.rows]
  | reset => exact ⟨rfl, rfl, rfl⟩

/-- **The same calls in two dialects keep the outline.** -/
theorem SameOutline.run (h : s.SameOutline s') (steps : List InsertStep) :
    (s.run steps).SameOutline (s'.run steps) := by
  induction steps generalizing s s' with
  | nil => exact h
  | cons step rest ih => exact ih (h.apply step)

end Insert

/-! ## UPDATE and DELETE -/

/-- **Two scopes with the same parentheses** that skip the same rows. -/
structure RowScope.SameOutline (scope scope' : RowScope) : Prop where
  /-- The WHERE lists have the same outline. -/
  filter : scope.filter.SameOutline scope'.filter
  /-- The same rows are skipped. -/
  offset : scope.offset = scope'.offset

/-- The same change of a scope in two dialects keeps the outline. -/
theorem RowScope.SameOutline.apply {scope scope' : RowScope} (h : scope.SameOutline scope')
    (step : ScopeStep) : (scope.apply d step).SameOutline (scope'.apply d' step) := by
  cases step with
  | filter c => exact ⟨h.filter.add c, h.offset⟩
  | orderBy name order => exact ⟨h.filter, h.offset⟩
  | limit n => exact ⟨h.filter, h.offset⟩
  | offset n => exact ⟨h.filter, rfl⟩

/-- **Two UPDATEs of the same table** and of scopes with the same outline, which assign something or
both nothing. -/
structure Update.SameOutline (s s' : Update) : Prop where
  /-- The tables are the same. -/
  target : s.data.target = s'.data.target
  /-- Something is assigned in both or in none. -/
  assignments : List.isEmpty s.data.assignments = List.isEmpty s'.data.assignments
  /-- The scopes have the same outline. -/
  scope : s.data.scope.SameOutline s'.data.scope

namespace Update

variable {s s' : Update}

/-- UPDATEs with the same outline are complete, or neither is. -/
theorem SameOutline.isComplete_iff (h : s.SameOutline s') :
    s.data.IsComplete ↔ s'.data.IsComplete := by
  have hsome : ∀ data : UpdateData,
      data.assignments ≠ [] ↔ List.isEmpty data.assignments = false := by
    simp [List.isEmpty_eq_false_iff]
  rw [UpdateData.IsComplete, UpdateData.IsComplete, hsome, hsome, h.target, h.assignments,
    h.scope.filter.renders_iff]

/-- **The same call in two dialects keeps the outline.** -/
theorem SameOutline.apply (h : s.SameOutline s') (step : UpdateStep) :
    (s.apply step).SameOutline (s'.apply step) := by
  have hset : ∀ (column : String) (v : Value), (s.set column v).SameOutline (s'.set column v) :=
    fun column v => ⟨h.target,
      (Insert.isEmpty_put ..).trans (Insert.isEmpty_put ..).symm, h.scope⟩
  cases step with
  | table t => exact ⟨rfl, h.assignments, h.scope⟩
  | set column v => exact hset column v
  | setRaw column sql => exact hset column (.raw sql)
  | scope step => exact ⟨h.target, h.assignments, h.scope.apply step⟩
  | reset => exact ⟨rfl, rfl, rfl, rfl⟩

/-- **The same calls in two dialects keep the outline.** -/
theorem SameOutline.run (h : s.SameOutline s') (steps : List UpdateStep) :
    (s.run steps).SameOutline (s'.run steps) := by
  induction steps generalizing s s' with
  | nil => exact h
  | cons step rest ih => exact ih (h.apply step)

/-- Calls do not change the dialect. -/
theorem dialect_run (s : Update) (steps : List UpdateStep) : (s.run steps).dialect = s.dialect := by
  induction steps generalizing s with
  | nil => rfl
  | cons step rest ih =>
    refine (ih (s.apply step)).trans ?_
    cases step <;> rfl

end Update

/-- **Two DELETEs of the same table** and of scopes with the same outline. -/
structure Delete.SameOutline (s s' : Delete) : Prop where
  /-- The tables are the same. -/
  target : s.data.target = s'.data.target
  /-- The scopes have the same outline. -/
  scope : s.data.scope.SameOutline s'.data.scope

namespace Delete

variable {s s' : Delete}

/-- DELETEs with the same outline are complete, or neither is. -/
theorem SameOutline.isComplete_iff (h : s.SameOutline s') :
    s.data.IsComplete ↔ s'.data.IsComplete := by
  rw [DeleteData.IsComplete, DeleteData.IsComplete, h.target, h.scope.filter.renders_iff]

/-- **The same call in two dialects keeps the outline.** -/
theorem SameOutline.apply (h : s.SameOutline s') (step : DeleteStep) :
    (s.apply step).SameOutline (s'.apply step) := by
  cases step with
  | fromTable t => exact ⟨rfl, h.scope⟩
  | scope step => exact ⟨h.target, h.scope.apply step⟩
  | reset => exact ⟨rfl, rfl, rfl⟩

/-- **The same calls in two dialects keep the outline.** -/
theorem SameOutline.run (h : s.SameOutline s') (steps : List DeleteStep) :
    (s.run steps).SameOutline (s'.run steps) := by
  induction steps generalizing s s' with
  | nil => exact h
  | cons step rest ih => exact ih (h.apply step)

/-- Calls do not change the dialect. -/
theorem dialect_run (s : Delete) (steps : List DeleteStep) : (s.run steps).dialect = s.dialect := by
  induction steps generalizing s with
  | nil => rfl
  | cons step rest ih =>
    refine (ih (s.apply step)).trans ?_
    cases step <;> rfl

end Delete

/-! ## The main result -/

namespace StatementCalls

/-- **What the calls must have put together**, whatever the statement is written in. -/
def IsComplete (d : Dialect) : StatementCalls → Prop
  | select steps =>
    SelectStep.JoinsComeFirst steps ∧ ((Select.new d).run steps).query.ListsRender
  | insert steps => ((Insert.new d).run steps).data.IsComplete
  | update steps => ((Update.new d).run steps).data.IsComplete
  | delete steps => ((Delete.new d).run steps).data.IsComplete

/-- Whether the calls build a change that skips rows. -/
def SkipsRows (d : Dialect) : StatementCalls → Prop
  | update steps => ((Update.new d).run steps).data.scope.offset > 0
  | delete steps => ((Delete.new d).run steps).data.scope.offset > 0
  | _ => False

/-- Whether calls are complete does not depend on the dialect. -/
theorem isComplete_iff (calls : StatementCalls) : calls.IsComplete d ↔ calls.IsComplete d' := by
  cases calls with
  | select steps =>
    exact and_congr_right fun _ => (Select.SameOutline.run steps (.new d d')).listsRender_iff
  | insert steps =>
    have houtline : (Insert.new d).SameOutline (.new d') := ⟨rfl, rfl, rfl⟩
    exact (houtline.run steps).isComplete_iff
  | update steps =>
    have houtline : (Update.new d).SameOutline (.new d') := ⟨rfl, rfl, rfl, rfl⟩
    exact (houtline.run steps).isComplete_iff
  | delete steps =>
    have houtline : (Delete.new d).SameOutline (.new d') := ⟨rfl, rfl, rfl⟩
    exact (houtline.run steps).isComplete_iff

/-- Whether calls skip rows does not depend on the dialect. -/
theorem skipsRows_iff (calls : StatementCalls) : calls.SkipsRows d ↔ calls.SkipsRows d' := by
  cases calls with
  | select | insert => exact Iff.rfl
  | update steps =>
    have houtline : (Update.new d).SameOutline (.new d') := ⟨rfl, rfl, rfl, rfl⟩
    rw [SkipsRows, SkipsRows, (houtline.run steps).scope.offset]
  | delete steps =>
    have houtline : (Delete.new d).SameOutline (.new d') := ⟨rfl, rfl, rfl⟩
    rw [SkipsRows, SkipsRows, (houtline.run steps).scope.offset]

/-- Rows to be skipped are refused by the dialects that cannot skip them. -/
theorem text_of_skipsRows (hd : d ∈ [Dialect.mySql, .mariaDb]) {calls : StatementCalls}
    (h : calls.SkipsRows d) (terminated : Bool) :
    (calls.run d).text terminated = .error (.unsupported d .offsetInChange) := by
  cases calls with
  | select | insert => exact absurd h id
  | update steps =>
    show (UpdateData.render _ _).map _ = _
    rw [Update.dialect_run, UpdateData.render]
    exact congrArg (fun x => Except.map _ (x >>= _)) (Dialect.checkOffset_of_pos hd h)
  | delete steps =>
    show (DeleteData.render _ _).map _ = _
    rw [Delete.dialect_run, DeleteData.render]
    exact congrArg (fun x => Except.map _ (x >>= _)) (Dialect.checkOffset_of_pos hd h)

/-- **Complete calls have a text**, and the others are refused. -/
theorem succeedsIff_text {calls : StatementCalls}
    (h : d ∈ [Dialect.mySql, .mariaDb] → ¬ calls.SkipsRows d) (terminated : Bool) :
    SucceedsIff (calls.IsComplete d) ((calls.run d).text terminated) := by
  have hzero : ∀ {n : UInt64}, ¬ n > 0 → n = 0 := by
    intro n hn
    by_contra hne
    exact hn (UInt64.pos_iff_ne_zero.2 hne)
  cases calls with
  | select steps => exact Select.succeedsIff_statement d steps terminated
  | insert steps => exact (InsertData.succeedsIff_render _ _).map _
  | update steps =>
    refine SucceedsIff.map (UpdateData.succeedsIff_render ?_) _
    rw [Update.dialect_run]
    exact fun hd => hzero (h hd)
  | delete steps =>
    refine SucceedsIff.map (DeleteData.succeedsIff_render ?_) _
    rw [Delete.dialect_run]
    exact fun hd => hzero (h hd)

end StatementCalls

/-- **Which statements are accepted does not depend on the dialect**, with one exception: MySQL and
MariaDB skip no rows in an UPDATE or DELETE.  Past the exception, a statement has a text exactly if
the calls are complete, and is refused for an argument otherwise.  Whether they are complete, and
whether they skip rows, is the same in every dialect. -/
theorem accepted_iff_isComplete (calls : StatementCalls) (d : Dialect) (terminated : Bool) :
    (d ∈ [Dialect.mySql, .mariaDb] → calls.SkipsRows d →
      (calls.run d).text terminated = .error (.unsupported d .offsetInChange)) ∧
    ((d ∈ [Dialect.mySql, .mariaDb] → ¬ calls.SkipsRows d) →
      ((∃ sql, (calls.run d).text terminated = .ok sql) ↔ calls.IsComplete d) ∧
      ∀ e, (calls.run d).text terminated = .error e → ∃ fault, e = .invalidArgument fault) ∧
    ∀ d' : Dialect, (calls.IsComplete d ↔ calls.IsComplete d') ∧
      (calls.SkipsRows d ↔ calls.SkipsRows d') := by
  refine ⟨fun hd hskips => StatementCalls.text_of_skipsRows hd hskips terminated, fun hskips => ?_,
    fun d' => ⟨calls.isComplete_iff, calls.skipsRows_iff⟩⟩
  have hsucceeds := StatementCalls.succeedsIff_text hskips terminated
  exact ⟨hsucceeds.exists_eq_ok_iff, fun e he => hsucceeds.exists_fault_of_eq_error he⟩

end SqlBuilder
