import Mathlib.Data.List.DropRight
import SqlBuilder.Proofs.Calls
import SqlBuilder.Proofs.FilteredChange

/-! # Which statements are accepted

What a statement must have to be rendered.  The conditions are those of the SQL that every dialect
writes: the parentheses of predicate lists match, a join condition has a join, and a change or an
INSERT has a target and something to write.  Each renderer succeeds exactly under its condition and
refuses an argument otherwise; only the offset of a change is refused by some dialects.  That a
result is there exactly under a condition is `SucceedsIff`; conditions add up as checks are made one
after the other. -/

namespace SqlBuilder

/-! ## Results under a condition -/

/-- **A result that is there exactly under a condition**; without it an argument is refused. -/
inductive SucceedsIff {α : Type} (c : Prop) : DbResult α → Prop
  | ok (h : c) (a : α) : SucceedsIff c (.ok a)
  | refused (h : ¬ c) (fault : ArgumentFault) : SucceedsIff c (refuse fault)

namespace SucceedsIff

variable {α β : Type} {c c' : Prop} {x : DbResult α}

/-- The result is there iff the condition holds. -/
theorem exists_eq_ok_iff (h : SucceedsIff c x) : (∃ a, x = .ok a) ↔ c := by
  cases h with
  | ok hc a => exact ⟨fun _ => hc, fun _ => ⟨a, rfl⟩⟩
  | refused hc fault =>
    constructor
    · rintro ⟨a, ha⟩
      cases ha
    · intro hc'
      exact absurd hc' hc

/-- Every failure refuses an argument. -/
theorem exists_fault_of_eq_error (h : SucceedsIff c x) {e : DbError} (he : x = .error e) :
    ∃ fault, e = .invalidArgument fault := by
  cases h with
  | ok hc a => cases he
  | refused hc fault => exact ⟨fault, (Except.error.inj he).symm⟩

/-- Equivalent conditions are interchangeable. -/
theorem of_iff (h : SucceedsIff c x) (hcc : c ↔ c') : SucceedsIff c' x := by
  cases h with
  | ok hc a => exact .ok (hcc.1 hc) a
  | refused hc fault => exact .refused (fun hc' => hc (hcc.2 hc')) fault

/-- What is made of a result adds no condition. -/
theorem map (h : SucceedsIff c x) (f : α → β) : SucceedsIff c (x.map f) := by
  cases h with
  | ok hc a => exact .ok hc (f a)
  | refused hc fault => exact .refused hc fault

/-- **Conditions add up** as results follow each other. -/
theorem bind {f : α → DbResult β} (h : SucceedsIff c x) (hf : ∀ a, SucceedsIff c' (f a)) :
    SucceedsIff (c ∧ c') (x >>= f) := by
  cases h with
  | ok hc a => exact (hf a).of_iff ⟨fun hc' => ⟨hc, hc'⟩, And.right⟩
  | refused hc fault => exact .refused (fun hcc => hc hcc.1) fault

end SucceedsIff

/-! ## Predicate lists -/

namespace Predicates

/-- Whether the list has a text. -/
def Renders (p : Predicates) : Prop := ∃ sql, p.render = .ok sql

/-- The empty list has a text. -/
theorem renders_empty : empty.Renders := ⟨"", rfl⟩

/-- A list has a text iff its parentheses are not at fault. -/
theorem renders_iff (p : Predicates) :
    p.Renders ↔ groupFault 0 false (p.terms.map PredicateTerm.token) = none := by
  rw [Renders, render]
  cases groupFault 0 false (p.terms.map PredicateTerm.token) with
  | some fault => simp [refuse]
  | none => simp

/-- A list that has no text is refused. -/
theorem succeedsIff_render (p : Predicates) : SucceedsIff p.Renders p.render := by
  rw [render]
  cases hfault : groupFault 0 false (p.terms.map PredicateTerm.token) with
  | some fault => exact .refused (by simp [renders_iff, hfault]) fault
  | none => exact .ok (p.renders_iff.2 hfault) _

/-- The clause of a list succeeds as the list does. -/
theorem succeedsIff_clause (p : Predicates) (keyword : String) :
    SucceedsIff p.Renders (p.clause keyword) := by
  rw [clause]
  split
  · next hempty =>
    obtain rfl : p = empty := congrArg mk (List.isEmpty_iff.1 hempty)
    exact .ok renders_empty ""
  · exact p.succeedsIff_render.map _

end Predicates

/-- A statement that keeps its WHERE list succeeds as the list does. -/
theorem KeepsFilter.succeedsIff {before after : String} {statement : Predicates → DbResult String}
    (h : KeepsFilter before after statement) (p : Predicates) :
    SucceedsIff p.Renders (statement p) := by
  rw [h p]
  exact p.succeedsIff_render.map _

/-! ## Queries -/

/-- The clauses of a SELECT succeed as its WHERE and HAVING lists do. -/
theorem SelectBlock.succeedsIff_render (d : Dialect) (b : SelectBlock) :
    SucceedsIff (b.filter.Renders ∧ b.having.Renders) (b.render d) := by
  have hfilter : SucceedsIff b.filter.Renders b.filter.whereClause :=
    b.filter.succeedsIff_clause " WHERE "
  have hhaving : SucceedsIff b.having.Renders b.having.havingClause :=
    b.having.succeedsIff_clause " HAVING "
  exact hfilter.bind fun filter => hhaving.map _

/-- **Every WHERE and HAVING list has a text**, in a query and in all queries combined with it. -/
inductive Query.ListsRender : Query → Prop
  | mk {block : SelectBlock} {combined : List (SetOperator × Query)}
    (filter : block.filter.Renders) (having : block.having.Renders)
    (parts : ∀ part ∈ combined, part.2.ListsRender) : ListsRender ⟨block, combined⟩

namespace Query

/-- The lists of a query are those of its clauses and of the combined queries. -/
theorem listsRender_iff (q : Query) :
    q.ListsRender ↔ (q.block.filter.Renders ∧ q.block.having.Renders) ∧
      ∀ part ∈ q.combined, part.2.ListsRender := by
  obtain ⟨block, combined⟩ := q
  constructor
  · rintro ⟨filter, having, parts⟩
    exact ⟨⟨filter, having⟩, parts⟩
  · rintro ⟨⟨filter, having⟩, parts⟩
    exact .mk filter having parts

mutual

/-- **A query succeeds exactly if its lists have texts.** -/
theorem succeedsIff_render (d : Dialect) : ∀ q : Query, SucceedsIff q.ListsRender (q.render d)
  | ⟨block, combined⟩ => by
    refine SucceedsIff.of_iff ?_ (listsRender_iff ⟨block, combined⟩).symm
    exact (block.succeedsIff_render d).bind fun own => (succeedsIff_renderParts d combined).map _
termination_by structural q => q

/-- Combined queries succeed exactly if the lists of all of them have texts. -/
theorem succeedsIff_renderParts (d : Dialect) : ∀ parts : List (SetOperator × Query),
    SucceedsIff (∀ part ∈ parts, part.2.ListsRender) (renderParts d parts)
  | [] => .ok (by simp) ""
  | part :: rest => by
    refine SucceedsIff.of_iff ?_ List.forall_mem_cons.symm
    exact (succeedsIff_renderPart d part).bind fun first =>
      (succeedsIff_renderParts d rest).map _
termination_by structural parts => parts

/-- A combined query succeeds exactly if its lists have texts. -/
theorem succeedsIff_renderPart (d : Dialect) : ∀ part : SetOperator × Query,
    SucceedsIff part.2.ListsRender (renderPart d part)
  | (_, q) => (succeedsIff_render d q).map _
termination_by structural part => part

end

end Query

/-! ## Join conditions -/

namespace SelectStep

/-- Whether a call starts over. -/
def isReset : SelectStep → Bool
  | .reset => true
  | _ => false

/-- Whether a call joins a table. -/
def isJoin : SelectStep → Bool
  | .join _ _ => true
  | _ => false

/-- Whether a call gives the last join a condition or a shared column. -/
def needsJoin : SelectStep → Bool
  | .on _ _ _ | .sharing _ => true
  | _ => false

/-- **The calls after the last reset.** -/
def sinceReset (steps : List SelectStep) : List SelectStep :=
  steps.rtakeWhile fun step => !step.isReset

/-- **Whether join conditions have a join**: none comes before the first join since the last
reset. -/
def JoinsComeFirst (steps : List SelectStep) : Prop :=
  ∀ step ∈ (sinceReset steps).takeWhile fun step => !step.isJoin, step.needsJoin = false

/-- One more call starts over, or is the last one since the last reset. -/
theorem sinceReset_concat (steps : List SelectStep) (step : SelectStep) :
    sinceReset (steps ++ [step]) = if step.isReset then [] else sinceReset steps ++ [step] := by
  rw [sinceReset, List.rtakeWhile_concat]
  cases step.isReset <;> rfl

/-- A call that starts over needs no join. -/
theorem joinsComeFirst_concat_of_isReset (steps : List SelectStep) {step : SelectStep}
    (h : step.isReset = true) : JoinsComeFirst (steps ++ [step]) := by
  rw [JoinsComeFirst, sinceReset_concat, if_pos h]
  simp

/-- Join conditions still have a join behind one more call, unless it is the first that lacks
one. -/
theorem joinsComeFirst_concat (steps : List SelectStep) {step : SelectStep}
    (h : step.isReset = false) :
    JoinsComeFirst (steps ++ [step]) ↔ JoinsComeFirst steps ∧
      ((∀ earlier ∈ sinceReset steps, earlier.isJoin = false) → step.needsJoin = false) := by
  have hjoin : step.isJoin = true → step.needsJoin = false := by
    cases step <;> simp [isJoin, needsJoin]
  rw [JoinsComeFirst, JoinsComeFirst, sinceReset_concat, if_neg (by simp [h])]
  by_cases hnone : ∀ earlier ∈ sinceReset steps, earlier.isJoin = false
  · -- No call has joined a table yet, so this one counts unless it does.
    have hall : ∀ earlier ∈ sinceReset steps, (!earlier.isJoin) = true := by simpa using hnone
    rw [List.takeWhile_append_of_pos hall, List.takeWhile_eq_self_iff.2 hall, List.forall_mem_append]
    rw [imp_iff_right hnone]
    refine and_congr_right fun _ => ?_
    cases hstep : step.isJoin with
    | true => simp [hstep, hjoin hstep]
    | false => simp [hstep]
  · -- A call has joined a table, so no later one counts.
    have hlength : ((sinceReset steps).takeWhile fun step => !step.isJoin).length
        ≠ (sinceReset steps).length := by
      intro hlength
      refine hnone fun earlier hearlier => ?_
      have htake := (List.takeWhile_prefix fun step : SelectStep => !step.isJoin).eq_of_length hlength
      simpa using List.takeWhile_eq_self_iff.1 htake earlier hearlier
    rw [List.takeWhile_append, if_neg hlength]
    exact ⟨fun h => ⟨h, fun hall => absurd hall hnone⟩, And.left⟩

end SelectStep

namespace Select

/-- One more call comes after the others. -/
theorem run_concat (s : Select) (steps : List SelectStep) (step : SelectStep) :
    s.run (steps ++ [step]) = (s.run steps).apply step := by
  induction steps generalizing s with
  | nil => rfl
  | cons first rest ih => exact ih (s.apply first)

/-- A change of the last join neither adds a join nor removes one. -/
theorem joins_modifyJoin (s : Select) (fault : ArgumentFault) (f : Join → Join) :
    (s.modifyJoin fault f).query.block.joins = [] ↔ s.query.block.joins = [] := by
  rw [modifyJoin]
  cases hlast : s.query.block.joins.getLast? with
  | none => rfl
  | some last =>
    have hne : s.query.block.joins ≠ [] := by
      intro hnil
      simp [hnil] at hlast
    simp [modifyBlock, hne]

/-- A change of the last join is a fault exactly if there is none. -/
theorem misuse_modifyJoin (s : Select) (fault : ArgumentFault) (f : Join → Join) :
    (s.modifyJoin fault f).misuse = none ↔ s.misuse = none ∧ s.query.block.joins ≠ [] := by
  rw [modifyJoin]
  cases hlast : s.query.block.joins.getLast? with
  | none =>
    have hnil : s.query.block.joins = [] := List.getLast?_eq_none_iff.1 hlast
    simp [hnil]
  | some last =>
    have hne : s.query.block.joins ≠ [] := by
      intro hnil
      simp [hnil] at hlast
    simp [modifyBlock, hne]

/-- **What a call does to the joins**: it starts over, joins a table, or leaves their number. -/
theorem joins_apply (s : Select) (step : SelectStep) :
    (s.apply step).query.block.joins = [] ↔
      step.isReset = true ∨ s.query.block.joins = [] ∧ step.isJoin = false := by
  cases step with
  | join t kind => simp [apply, join, modifyBlock, SelectStep.isReset, SelectStep.isJoin]
  | reset =>
    have hempty : (s.apply .reset).query.block.joins = [] := rfl
    simp [hempty, SelectStep.isReset]
  | on left op right =>
    refine (s.joins_modifyJoin _ _).trans ?_
    simp [SelectStep.isReset, SelectStep.isJoin]
  | sharing name =>
    refine (s.joins_modifyJoin _ _).trans ?_
    simp [SelectStep.isReset, SelectStep.isJoin]
  | distinct | columns | columnAs | expression | fromTable | fromRaw | filter | having | groupBy
  | orderBy | orderByRaw | limit | offset | combine =>
    refine Iff.trans (b := s.query.block.joins = []) Iff.rfl ?_
    simp [SelectStep.isReset, SelectStep.isJoin]

/-- **What a call does to the remembered fault**: it forgets it, is one itself, or keeps it. -/
theorem misuse_apply (s : Select) (step : SelectStep) :
    (s.apply step).misuse = none ↔ step.isReset = true ∨
      s.misuse = none ∧ (s.query.block.joins = [] → step.needsJoin = false) := by
  cases step with
  | reset =>
    have hnone : (s.apply .reset).misuse = none := rfl
    simp [hnone, SelectStep.isReset]
  | on left op right =>
    refine (s.misuse_modifyJoin _ _).trans ?_
    simp [SelectStep.isReset, SelectStep.needsJoin]
  | sharing name =>
    refine (s.misuse_modifyJoin _ _).trans ?_
    simp [SelectStep.isReset, SelectStep.needsJoin]
  | distinct | columns | columnAs | expression | fromTable | fromRaw | filter | having | groupBy
  | orderBy | orderByRaw | limit | offset | combine | join =>
    refine Iff.trans (b := s.misuse = none) Iff.rfl ?_
    simp [SelectStep.isReset, SelectStep.needsJoin]

variable (d : Dialect)

/-- A SELECT has no join iff no call since the last reset has joined a table. -/
theorem joins_run (steps : List SelectStep) :
    ((new d).run steps).query.block.joins = [] ↔
      ∀ step ∈ SelectStep.sinceReset steps, step.isJoin = false := by
  induction steps using List.reverseRecOn with
  | nil => simp [run, new, Query.empty, SelectBlock.empty, SelectStep.sinceReset]
  | append_singleton steps step ih =>
    rw [run_concat, joins_apply, ih, SelectStep.sinceReset_concat]
    cases step.isReset with
    | true => simp
    | false => simp [or_imp, forall_and]

/-- **A SELECT remembers a fault exactly if a join condition has no join.** -/
theorem misuse_run (steps : List SelectStep) :
    ((new d).run steps).misuse = none ↔ SelectStep.JoinsComeFirst steps := by
  induction steps using List.reverseRecOn with
  | nil => simp [run, new, SelectStep.JoinsComeFirst, SelectStep.sinceReset]
  | append_singleton steps step ih =>
    rw [run_concat, misuse_apply, ih, joins_run]
    cases hreset : step.isReset with
    | true => simp [SelectStep.joinsComeFirst_concat_of_isReset steps hreset]
    | false => simp [SelectStep.joinsComeFirst_concat steps hreset]

/-- **A SELECT succeeds exactly if its join conditions have a join and its lists have texts.** -/
theorem succeedsIff_statement (steps : List SelectStep) (terminated : Bool) :
    SucceedsIff (SelectStep.JoinsComeFirst steps ∧ ((new d).run steps).query.ListsRender)
      (((new d).run steps).statement terminated) := by
  rw [← misuse_run d steps, statement]
  cases hmisuse : ((new d).run steps).misuse with
  | some fault => exact .refused (by simp) fault
  | none =>
    refine SucceedsIff.of_iff ?_ (by simp : ((new d).run steps).query.ListsRender ↔ _)
    exact (Query.succeedsIff_render _ _).map _

end Select

/-! ## INSERT -/

namespace InsertData

/-- A column is in a list of columns that it was added to. -/
theorem addColumn_ne_nil (columns : List String) (name : String) : addColumn columns name ≠ [] := by
  rw [addColumn]
  split
  · next hcontains =>
    rintro rfl
    simp at hcontains
  · simp

/-- There are columns iff there were some or some were added. -/
theorem foldl_addColumn_eq_nil_iff (names columns : List String) :
    names.foldl addColumn columns = [] ↔ columns = [] ∧ names = [] := by
  induction names generalizing columns with
  | nil => simp
  | cons name rest ih =>
    rw [List.foldl_cons, ih]
    simp [addColumn_ne_nil]

/-- **A statement has columns iff one is declared or used.** -/
theorem columnList_ne_nil_iff (data : InsertData) :
    data.columnList ≠ [] ↔ data.columns ≠ [] ∨ ∃ row ∈ data.rows, row ≠ [] := by
  have hkeys : ∀ row : InsertRow, row.keys = [] ↔ row = [] := by simp [Entries.keys]
  rw [columnList, ne_eq, foldl_addColumn_eq_nil_iff, List.flatMap_eq_nil_iff]
  simp only [hkeys]
  rw [not_and_or]
  push Not
  rfl

/-- What an INSERT must have: a table, a row, and a column that is declared or used. -/
def IsComplete (data : InsertData) : Prop :=
  data.target ≠ none ∧ data.rows ≠ [] ∧ (data.columns ≠ [] ∨ ∃ row ∈ data.rows, row ≠ [])

/-- **An INSERT succeeds exactly if it is complete.** -/
theorem succeedsIff_render (d : Dialect) (data : InsertData) :
    SucceedsIff data.IsComplete (data.render d) := by
  refine SucceedsIff.map ?_ _
  rw [IsComplete, ← columnList_ne_nil_iff, checkedTarget]
  cases data.target with
  | none => exact .refused (by simp) _
  | some t =>
    dsimp only
    split
    · next hempty => exact .refused (by simp at hempty; tauto) _
    · next hempty => exact .ok (by simp at hempty; tauto) t

end InsertData

/-! ## UPDATE and DELETE -/

/-- **A change succeeds exactly if its WHERE list has a text**, in every dialect. -/
theorem Change.succeedsIff_render (change : Change) (d : Dialect) (t : TableRef)
    (scope : RowScope) : SucceedsIff scope.filter.Renders (change.render d t scope) := by
  obtain ⟨before, after, hkeeps⟩ := change.exists_keepsFilter d t scope
  exact hkeeps.succeedsIff scope.filter

/-- Rows are to be skipped that the dialect cannot skip. -/
theorem Dialect.checkOffset_of_pos {d : Dialect} (hd : d ∈ [Dialect.mySql, .mariaDb])
    {scope : RowScope} (hoffset : scope.offset > 0) :
    d.checkOffset scope = .error (.unsupported d .offsetInChange) := by
  have hskips : d.skipsRows = false := by
    revert hd
    cases d <;> decide
  rw [Dialect.checkOffset, hskips]
  simp [hoffset]

namespace UpdateData

/-- What an UPDATE must have: a table, an assignment, and a WHERE list with a text. -/
def IsComplete (data : UpdateData) : Prop :=
  data.target ≠ none ∧ data.assignments ≠ [] ∧ data.scope.filter.Renders

/-- **An UPDATE succeeds exactly if it is complete**, where no rows are to be skipped that the
dialect cannot skip. -/
theorem succeedsIff_render {d : Dialect} {data : UpdateData}
    (hskip : d ∈ [Dialect.mySql, .mariaDb] → data.scope.offset = 0) :
    SucceedsIff data.IsComplete (data.render d) := by
  have htarget : SucceedsIff (data.target ≠ none ∧ data.assignments ≠ []) data.checkedTarget := by
    rw [checkedTarget]
    cases data.target with
    | none => exact .refused (by simp) _
    | some t =>
      dsimp only
      split
      · next hempty => exact .refused (by simpa using hempty) _
      · next hempty => exact .ok (by simpa using hempty) t
  rw [render, Dialect.checkOffset_of_mem data.scope hskip, IsComplete, ← and_assoc]
  exact htarget.bind fun t => Change.succeedsIff_render _ d t data.scope

end UpdateData

namespace DeleteData

/-- What a DELETE must have: a table, and a WHERE list with a text. -/
def IsComplete (data : DeleteData) : Prop := data.target ≠ none ∧ data.scope.filter.Renders

/-- **A DELETE succeeds exactly if it is complete**, where no rows are to be skipped that the dialect
cannot skip. -/
theorem succeedsIff_render {d : Dialect} {data : DeleteData}
    (hskip : d ∈ [Dialect.mySql, .mariaDb] → data.scope.offset = 0) :
    SucceedsIff data.IsComplete (data.render d) := by
  have htarget : SucceedsIff (data.target ≠ none)
      (orRefuse data.target .deleteWithoutTarget) := by
    cases data.target with
    | none => exact .refused (by simp) _
    | some t => exact .ok (by simp) t
  rw [render, Dialect.checkOffset_of_mem data.scope hskip]
  exact htarget.bind fun t => Change.succeedsIff_render .delete d t data.scope

end DeleteData

end SqlBuilder
