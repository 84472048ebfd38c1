import Mathlib.Data.Multiset.Dedup
import SqlBuilder.Select.Builder

/-! # Combined SELECTs

What becomes of a SELECT that is made a part of another one.

* `Select.statement_combine`: the text of a combination is the two texts around the set operator.
  The part's own text is taken as if no join condition had been misused in it, so the two statements
  make the combination (`Select.Composes`) unless it is such a fault that stops the part alone.
* `Select.statement_combine_combine`: a tree of combined SELECTs is written as the chain of its
  blocks (`Query.chain`).  No text shows how the operators were grouped, although the grouping tells
  which rows are meant (`Query.rows`). -/

namespace SqlBuilder

/-! ## Texts one after the other -/

/-- Two texts one after the other, if both are there. -/
def joined (first second : DbResult String) : DbResult String := do
  let a ← first
  let b ← second
  return a ++ b

/-- The empty text adds nothing. -/
theorem joined_empty (x : DbResult String) : joined x (.ok "") = x := by
  cases x with
  | error e => rfl
  | ok a => exact congrArg Except.ok (String.append_empty)

/-- Nothing is added to the empty text. -/
theorem empty_joined (x : DbResult String) : joined (.ok "") x = x := by
  cases x with
  | error e => rfl
  | ok a => exact congrArg Except.ok (String.empty_append)

/-- Of three texts, the first two or the last two may be joined first. -/
theorem joined_assoc (x y z : DbResult String) :
    joined (joined x y) z = joined x (joined y z) := by
  cases x with
  | error e => rfl
  | ok a =>
    cases y with
    | error e => rfl
    | ok b =>
      cases z with
      | error e => rfl
      | ok c => exact congrArg Except.ok (String.append_assoc)

namespace Query

variable (d : Dialect)

/-- The text of a query is that of its clauses and that of the combined queries. -/
theorem render_mk (block : SelectBlock) (combined : List (SetOperator × Query)) :
    (⟨block, combined⟩ : Query).render d = joined (block.render d) (renderParts d combined) := rfl

/-- The texts of combined queries follow each other. -/
theorem renderParts_cons (part : SetOperator × Query) (parts : List (SetOperator × Query)) :
    renderParts d (part :: parts) = joined (renderPart d part) (renderParts d parts) := rfl

/-- The text of a combined query follows its operator. -/
theorem renderPart_mk (op : SetOperator) (q : Query) :
    renderPart d (op, q) = joined (.ok (" " ++ op.keyword ++ " ")) (q.render d) := rfl

/-- Combined queries may be split at any point. -/
theorem renderParts_append (parts parts' : List (SetOperator × Query)) :
    renderParts d (parts ++ parts') = joined (renderParts d parts) (renderParts d parts') := by
  induction parts with
  | nil => exact (empty_joined _).symm
  | cons part rest ih => rw [List.cons_append, renderParts_cons, renderParts_cons, ih, joined_assoc]

/-- One combined query has the text that it has as a part. -/
theorem renderParts_singleton (part : SetOperator × Query) :
    renderParts d [part] = renderPart d part := joined_empty _

/-- **One more combined query comes last**, behind its operator. -/
theorem render_concat (q : Query) (op : SetOperator) (other : Query) :
    (⟨q.block, q.combined ++ [(op, other)]⟩ : Query).render d
      = joined (q.render d) (renderPart d (op, other)) := by
  obtain ⟨block, combined⟩ := q
  rw [render_mk, renderParts_append, renderParts_singleton, ← joined_assoc, ← render_mk]

end Query

/-! ## The statement of a combination -/

namespace Select

/-- The SELECT without the fault that it remembers. -/
def forgiven (s : Select) : Select := ⟨s.dialect, s.query, none⟩

/-- **A combination is made of the two statements**: it has a text exactly if both have one, and
that is theirs around the set operator. -/
structure Composes (a : Select) (op : SetOperator) (b : Select) : Prop where
  /-- The combination has a text exactly if both statements have one. -/
  ok_iff : (∃ sql, (a.combine op b).statement false = .ok sql) ↔
    (∃ x, a.statement false = .ok x) ∧ ∃ y, b.statement false = .ok y
  /-- The text of the combination is that of both statements around the set operator. -/
  text : ∀ x y, a.statement false = .ok x → b.statement false = .ok y →
    (a.combine op b).statement false = .ok (x ++ " " ++ op.keyword ++ " " ++ y)

/-- A SELECT that remembers no fault has the text of its query. -/
theorem statement_of_misuse_eq_none {s : Select} (h : s.misuse = none) :
    s.statement false = s.query.render s.dialect := by
  rw [statement, h]
  cases s.query.render s.dialect <;> rfl

/-- A SELECT that remembers a fault has no text. -/
theorem statement_ne_ok {s : Select} (h : s.misuse ≠ none) (sql : String) :
    s.statement false ≠ .ok sql := by
  rw [statement]
  cases hmisuse : s.misuse with
  | none => exact absurd hmisuse h
  | some fault => simp [refuse]

variable {a b : Select}

/-- **What a combination says**: the text of the first SELECT, the set operator, and the text that
the second would have without a fault. -/
theorem statement_combine_eq (hd : b.dialect = a.dialect) (op : SetOperator) :
    (a.combine op b).statement false = do
      let x ← a.statement false
      let y ← b.forgiven.statement false
      return x ++ " " ++ op.keyword ++ " " ++ y := by
  have hpart : b.forgiven.statement false = b.query.render a.dialect := by
    rw [← hd]
    exact statement_of_misuse_eq_none rfl
  cases hmisuse : a.misuse with
  | some fault =>
    -- A fault of the first SELECT is a fault of the combination.
    have hleft : (a.combine op b).statement false = refuse fault := by
      rw [statement, show (a.combine op b).misuse = some fault from hmisuse]
    have hfirst : a.statement false = refuse fault := by
      rw [statement, hmisuse]
    rw [hleft, hfirst]
    rfl
  | none =>
    have hleft : (a.combine op b).statement false = (a.combine op b).query.render a.dialect :=
      statement_of_misuse_eq_none hmisuse
    have hfirst : a.statement false = a.query.render a.dialect :=
      statement_of_misuse_eq_none hmisuse
    rw [hleft, hfirst, hpart, combine, Query.render_concat, Query.renderPart_mk]
    cases a.query.render a.dialect with
    | error e => rfl
    | ok x =>
      cases b.query.render a.dialect with
      | error e => rfl
      | ok y =>
        refine congrArg Except.ok ?_
        simp only [String.append_assoc]

/-- A combination has a text iff the first SELECT has one and the second would have one without a
fault. -/
theorem exists_statement_combine_iff (hd : b.dialect = a.dialect) (op : SetOperator) :
    (∃ sql, (a.combine op b).statement false = .ok sql) ↔
      (∃ x, a.statement false = .ok x) ∧ ∃ y, b.forgiven.statement false = .ok y := by
  rw [statement_combine_eq hd]
  cases a.statement false with
  | error e => simp [bind, Except.bind]
  | ok x =>
    cases b.forgiven.statement false with
    | error e => simp [bind, Except.bind]
    | ok y => simp [bind, Except.bind, pure, Except.pure]

/-- A SELECT without a fault makes a combination with every other. -/
theorem composes_of_misuse_eq_none (hd : b.dialect = a.dialect) (op : SetOperator)
    (h : b.misuse = none) : a.Composes op b := by
  have hforgiven : b.forgiven = b := by
    obtain ⟨dialect, query, misuse⟩ := b
    exact congrArg (mk dialect query) h.symm
  have hok := exists_statement_combine_iff hd op
  rw [hforgiven] at hok
  refine ⟨hok, fun x y hx hy => ?_⟩
  rw [statement_combine_eq hd, hforgiven, hx, hy]
  rfl

/-- **The text of a combination.**  It is that of the first SELECT, the set operator, and the text
that the second has when its own fault is forgotten.  So two statements make the combination, except
where the second has a fault and nothing else stops the combination. -/
theorem statement_combine (hd : b.dialect = a.dialect) (op : SetOperator) :
    ((a.combine op b).statement false = do
      let x ← a.statement false
      let y ← b.forgiven.statement false
      return x ++ " " ++ op.keyword ++ " " ++ y) ∧
    (a.Composes op b ↔ b.misuse = none ∨
      ¬ ((∃ x, a.statement false = .ok x) ∧ ∃ y, b.forgiven.statement false = .ok y)) := by
  refine ⟨statement_combine_eq hd op, ?_⟩
  by_cases hmisuse : b.misuse = none
  · exact iff_of_true (composes_of_misuse_eq_none hd op hmisuse) (Or.inl hmisuse)
  · -- The second statement fails, so the combination is made of both exactly if it fails too.
    have hnone : ¬ ∃ y, b.statement false = .ok y := by
      rintro ⟨y, hy⟩
      exact statement_ne_ok hmisuse y hy
    rw [or_iff_right hmisuse, ← exists_statement_combine_iff hd op]
    constructor
    · intro hcomposes hboth
      exact hnone (hcomposes.ok_iff.1 hboth).2
    · intro hnot
      exact ⟨iff_of_false hnot fun h => hnone h.2, fun x y _ hy => absurd ⟨y, hy⟩ hnone⟩

/-- The SELECT of all of a table. -/
def ofTable (name : String) : Select := (new .standard).fromTable ⟨name, none⟩

/-- All SELECTs of tables are in the same dialect. -/
theorem dialect_ofTable (name : String) : (ofTable name).dialect = .standard := rfl

/-- **Two tables in a combination**, which the statements of both make. -/
theorem statement_combine_of_tables :
    ((ofTable "a").combine .union (ofTable "b")).statement false
      = .ok "SELECT * FROM \"a\" UNION SELECT * FROM \"b\"" ∧
    (ofTable "a").Composes .union (ofTable "b") := by
  have hdialect : (ofTable "b").dialect = (ofTable "a").dialect := by
    rw [dialect_ofTable, dialect_ofTable]
  obtain ⟨hstatement, hcomposes⟩ := statement_combine hdialect .union
  exact ⟨hstatement.trans (by decide +kernel), hcomposes.2 (Or.inl rfl)⟩

/-- **A misused part is written all the same**: the join condition that stops the SELECT of `b` does
not stop the combination, which reads the whole of `b`. -/
theorem statement_combine_of_misused_part :
    ((ofTable "b").on "x" .equal "y").statement false = refuse .conditionWithoutJoin ∧
    ((ofTable "a").combine .union ((ofTable "b").on "x" .equal "y")).statement false
      = .ok "SELECT * FROM \"a\" UNION SELECT * FROM \"b\"" ∧
    ¬ (ofTable "a").Composes .union ((ofTable "b").on "x" .equal "y") := by
  have hpart : ((ofTable "b").on "x" .equal "y").statement false
      = refuse .conditionWithoutJoin := by decide +kernel
  have hcombination :
      ((ofTable "a").combine .union ((ofTable "b").on "x" .equal "y")).statement false
        = .ok "SELECT * FROM \"a\" UNION SELECT * FROM \"b\"" := by decide +kernel
  refine ⟨hpart, hcombination, fun hcomposes => ?_⟩
  obtain ⟨y, hy⟩ := (hcomposes.ok_iff.1 ⟨_, hcombination⟩).2
  rw [hpart] at hy
  cases hy

end Select

/-! ## The blocks of a query -/

namespace Query

mutual

/-- The blocks of the combined queries, each with the operator before it, in the order in which they
are written. -/
def links : Query → List (SetOperator × SelectBlock)
  | ⟨_, combined⟩ => linksOfParts combined
termination_by structural q => q

/-- The blocks of combined queries, one query after the other. -/
def linksOfParts : List (SetOperator × Query) → List (SetOperator × SelectBlock)
  | [] => []
  | part :: rest => linksOfPart part ++ linksOfParts rest
termination_by structural parts => parts

/-- The blocks of a combined query, the first behind the query's operator. -/
def linksOfPart : SetOperator × Query → List (SetOperator × SelectBlock)
  | (op, q) => (op, q.block) :: q.links
termination_by structural part => part

end

/-- A block as a combined query. -/
def ofLink (link : SetOperator × SelectBlock) : SetOperator × Query := (link.1, ⟨link.2, []⟩)

/-- **The chain of a query**: its blocks combined one after the other, without grouping. -/
def chain (q : Query) : Query := ⟨q.block, q.links.map ofLink⟩

/-- The blocks of combined queries may be split at any point. -/
theorem linksOfParts_append (parts parts' : List (SetOperator × Query)) :
    linksOfParts (parts ++ parts') = linksOfParts parts ++ linksOfParts parts' := by
  induction parts with
  | nil => rfl
  | cons part rest ih =>
    show linksOfPart part ++ linksOfParts (rest ++ parts') = _
    rw [ih, ← List.append_assoc]
    rfl

/-- **The blocks of one more combined query come last.** -/
theorem links_concat (q : Query) (op : SetOperator) (other : Query) :
    (⟨q.block, q.combined ++ [(op, other)]⟩ : Query).links
      = q.links ++ (op, other.block) :: other.links := by
  obtain ⟨block, combined⟩ := q
  show linksOfParts (combined ++ [(op, other)]) = _
  rw [linksOfParts_append]
  exact congrArg (linksOfParts combined ++ ·) (List.append_nil _)

variable (d : Dialect)

mutual

/-- **A query is written as its chain.** -/
theorem render_chain : ∀ q : Query, q.render d = q.chain.render d
  | ⟨block, combined⟩ => by
    rw [chain, render_mk, render_mk]
    exact congrArg (joined (block.render d)) (renderParts_ofLink combined)
termination_by structural q => q

/-- Combined queries are written as their blocks. -/
theorem renderParts_ofLink : ∀ parts : List (SetOperator × Query),
    renderParts d parts = renderParts d ((linksOfParts parts).map ofLink)
  | [] => rfl
  | part :: rest => by
    show _ = renderParts d ((linksOfPart part ++ linksOfParts rest).map ofLink)
    rw [renderParts_cons, List.map_append, renderParts_append, ← renderPart_ofLink part,
      ← renderParts_ofLink rest]
termination_by structural parts => parts

/-- A combined query is written as its blocks. -/
theorem renderPart_ofLink : ∀ part : SetOperator × Query,
    renderPart d part = renderParts d ((linksOfPart part).map ofLink)
  | (op, q) => by
    -- The operator stays with the first block of the query, and the chain of the query follows.
    have hlink : renderPart d (ofLink (op, q.block))
        = joined (.ok (" " ++ op.keyword ++ " ")) (q.block.render d) := by
      rw [ofLink, renderPart_mk, render_mk]
      exact congrArg _ (joined_empty _)
    show _ = joined (renderPart d (ofLink (op, q.block))) (renderParts d (q.links.map ofLink))
    rw [renderPart_mk, render_chain q, chain, render_mk, ← joined_assoc, hlink]
termination_by structural part => part

end

end Query

/-! ## The rows of a query -/

section Rows

variable {ρ : Type} [DecidableEq ρ]

/-- The rows that a set operator makes of two tables.  Only UNION ALL keeps equal rows apart. -/
def SetOperator.rows : SetOperator → Multiset ρ → Multiset ρ → Multiset ρ
  | .union, x, y => (x + y).dedup
  | .unionAll, x, y => x + y
  | .intersect, x, y => x.dedup.filter (· ∈ y)
  | .except, x, y => x.dedup.filter (· ∉ y)

namespace Query

mutual

/-- **The rows of a query**, for the rows that each block reads: the combined queries are taken one
after the other, each as a whole. -/
def rows (tables : SelectBlock → Multiset ρ) : Query → Multiset ρ
  | ⟨block, combined⟩ => rowsOfParts tables combined (tables block)
termination_by structural q => q

/-- The rows that combined queries make of the rows before them. -/
def rowsOfParts (tables : SelectBlock → Multiset ρ) :
    List (SetOperator × Query) → Multiset ρ → Multiset ρ
  | [], before => before
  | part :: rest, before => rowsOfParts tables rest (rowsOfPart tables part before)
termination_by structural parts => parts

/-- The rows that a combined query makes of the rows before it. -/
def rowsOfPart (tables : SelectBlock → Multiset ρ) :
    SetOperator × Query → Multiset ρ → Multiset ρ
  | (op, q), before => op.rows before (q.rows tables)
termination_by structural part => part

end

variable (tables : SelectBlock → Multiset ρ)

/-- Combined queries may be split at any point. -/
theorem rowsOfParts_append (parts parts' : List (SetOperator × Query)) (before : Multiset ρ) :
    rowsOfParts tables (parts ++ parts') before
      = rowsOfParts tables parts' (rowsOfParts tables parts before) := by
  induction parts generalizing before with
  | nil => rfl
  | cons part rest ih => exact ih (rowsOfPart tables part before)

/-- **One more combined query works on the rows of all before it.** -/
theorem rows_concat (q : Query) (op : SetOperator) (other : Query) :
    (⟨q.block, q.combined ++ [(op, other)]⟩ : Query).rows tables
      = op.rows (q.rows tables) (other.rows tables) := by
  obtain ⟨block, combined⟩ := q
  show rowsOfParts tables (combined ++ [(op, other)]) (tables block) = _
  rw [rowsOfParts_append]
  rfl

end Query

end Rows

/-! ## Grouping -/

namespace Select

variable (a b c : Select) (op₁ op₂ : SetOperator)

/-- **The text shows the grouping** of three SELECTs: if the groupings mean different rows in some
database, their texts differ. -/
def ShowsGrouping : Prop :=
  (∃ tables : SelectBlock → Multiset Nat,
    (a.combine op₁ (b.combine op₂ c)).query.rows tables
      ≠ ((a.combine op₁ b).combine op₂ c).query.rows tables) →
  (a.combine op₁ (b.combine op₂ c)).statement false
    ≠ ((a.combine op₁ b).combine op₂ c).statement false

/-- The blocks of a combination are those of both SELECTs. -/
theorem links_combine : (a.combine op₁ b).query.links
    = a.query.links ++ (op₁, b.query.block) :: b.query.links := Query.links_concat _ _ _

/-- The rows of a combination are what the operator makes of those of both SELECTs. -/
theorem rows_combine {ρ : Type} [DecidableEq ρ] (tables : SelectBlock → Multiset ρ) :
    (a.combine op₁ b).query.rows tables
      = op₁.rows (a.query.rows tables) (b.query.rows tables) := Query.rows_concat _ _ _ _

/-- The SELECT without the grouping of its query. -/
def flattened (s : Select) : Select := ⟨s.dialect, s.query.chain, s.misuse⟩

/-- **A SELECT has the statement of its chain.** -/
theorem statement_flattened (s : Select) (terminated : Bool) :
    s.flattened.statement terminated = s.statement terminated := by
  rw [statement, statement, flattened, s.query.render_chain]

/-- Both groupings have the same chain. -/
theorem flattened_combine_combine : (a.combine op₁ (b.combine op₂ c)).flattened
    = ((a.combine op₁ b).combine op₂ c).flattened := by
  have hlinks : (a.combine op₁ (b.combine op₂ c)).query.links
      = ((a.combine op₁ b).combine op₂ c).query.links := by
    simp only [links_combine, List.append_assoc, List.cons_append]
    rfl
  rw [flattened, Query.chain, hlinks]
  rfl

/-- **Grouping leaves no trace in the text.**  A combination of a combination has the text, or the
error, of the SELECTs combined one after the other, whatever rows the two groupings mean; and so has
every SELECT that of its chain. -/
theorem statement_combine_combine (terminated : Bool) :
    (a.combine op₁ (b.combine op₂ c)).statement terminated
      = ((a.combine op₁ b).combine op₂ c).statement terminated ∧
    ∀ s : Select, s.statement terminated = s.flattened.statement terminated := by
  refine ⟨?_, fun s => (s.statement_flattened terminated).symm⟩
  rw [← statement_flattened, flattened_combine_combine, statement_flattened]

/-- **A difference from a union reads as a union with a difference**: nothing is left of `a` without
the rows of `b` and `c`, but the text takes only those of `b` away and then adds those of `c`. -/
theorem not_showsGrouping_except_union :
    ((ofTable "a").combine .except ((ofTable "b").combine .union (ofTable "c"))).statement false
      = .ok "SELECT * FROM \"a\" EXCEPT SELECT * FROM \"b\" UNION SELECT * FROM \"c\"" ∧
    ¬ ShowsGrouping (ofTable "a") (ofTable "b") (ofTable "c") .except .union := by
  refine ⟨by decide +kernel, fun hshows => ?_⟩
  -- The tables of `a` and `c` have the same row, that of `b` has none.
  refine hshows ⟨fun block => if block.sources = ["\"b\""] then 0 else {1}, ?_⟩ ?_
  · simp only [rows_combine]
    decide +kernel
  · decide +kernel

end Select

end SqlBuilder
