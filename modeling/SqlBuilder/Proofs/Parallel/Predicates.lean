import SqlBuilder.Comparison
import SqlBuilder.Proofs.Parallel.Quoting
import SqlBuilder.Proofs.PredicateList
import SqlBuilder.Proofs.ResultAlike

/-! # Parallel conditions and predicate lists

Conditions on values of the same shape are parallel, and so are predicate lists that were built by
the same calls from parallel conditions: their parentheses have the same fault, or they have
parallel texts. -/

namespace SqlBuilder

variable {d : Dialect} {P : String → String → Prop}

/-! ## Conditions -/

/-- **Two values of the same shape** with related contents of their string literals. -/
structure Value.AlikeIn (d : Dialect) (P : String → String → Prop) (v v' : Value) : Prop where
  /-- The values differ at most in the characters of a text. -/
  shape : v.SameShape v'
  /-- The contents are related one by one. -/
  texts : List.Forall₂ P (d.literalTexts v) (d.literalTexts v')

/-- The literals of such values are parallel. -/
theorem Value.AlikeIn.parallel {v v' : Value} (h : v.AlikeIn d P v') :
    Parallel d P (d.literal v) (d.literal v') := parallel_literal h.shape h.texts

theorem Connector.isPlain_keyword (c : Connector) : IsPlain c.keyword := by cases c <;> decide

theorem Operator.isPlain_keyword (op : Operator) : IsPlain op.keyword := by cases op <;> decide

/-- **A comparison with values of the same shape is parallel.** Both values are absent, or none
is, so both comparisons have the same form. -/
theorem parallel_comparison (column : String) (op : Operator) {v v' : Value}
    (h : v.AlikeIn d P v') :
    Parallel d P (d.comparison column op v) (d.comparison column op v') := by
  have hname : Parallel d P (d.identifier column) (d.identifier column) := parallel_identifier _
  have hhead := ((hname.append_plain (p := " ") (by decide)).append_plain op.isPlain_keyword)
  have hsimple := hhead.glue (p := " ") (by decide) (by decide) h.parallel
  have hlisted := (hhead.glue (p := " (") (by decide) (by decide) h.parallel).append_plain
    (p := ")") (by decide)
  have hnull := hname.append_plain (p := " IS NULL") (by decide)
  have hnotNull := hname.append_plain (p := " IS NOT NULL") (by decide)
  -- Only a comparison for equality has a form of its own for an absent value.
  cases op
  case equal | is =>
    cases h.shape
    case null => exact hnull
    all_goals exact hsimple
  case notEqual | isNot =>
    cases h.shape
    case null => exact hnotNull
    all_goals exact hsimple
  case isIn | isNotIn => cases h.shape <;> exact hlisted
  all_goals cases h.shape <;> exact hsimple

/-- A membership test is parallel on lists of values of the same shapes. -/
theorem parallel_membership (column : String) (negated : Bool) {values values' : List Value}
    (h : List.Forall₂ (Value.AlikeIn d P) values values') :
    Parallel d P (d.membership column values negated) (d.membership column values' negated) := by
  have hliterals : List.Forall₂ (Parallel d P) (values.map d.literal) (values'.map d.literal) := by
    rw [List.forall₂_map_left_iff, List.forall₂_map_right_iff]
    exact h.imp fun _ _ hv => hv.parallel
  have hlist := Parallel.intercalate (p := ", ") (by decide) (by decide) hliterals
  -- No value is in the empty list, which is said without the column.
  cases h with
  | nil => exact .plain (p := if negated then "1 = 1" else "1 = 0") (.ite (by decide) (by decide))
  | cons hv hvs =>
    exact ((parallel_identifier _).glue (p := if negated then " NOT IN (" else " IN (")
      (.ite (by decide) (by decide)) (by split <;> decide) hlist).append_plain (by decide)

/-- A range test is parallel on bounds of the same shapes. -/
theorem parallel_between (column : String) (negated : Bool) {low low' high high' : Value}
    (hlow : low.AlikeIn d P low') (hhigh : high.AlikeIn d P high') :
    Parallel d P (d.between column low high negated) (d.between column low' high' negated) :=
  ((parallel_identifier _).glue (p := if negated then " NOT BETWEEN " else " BETWEEN ")
    (.ite (by decide) (by decide)) (by split <;> decide) hlow.parallel).glue
    (p := " AND ") (by decide) (by decide) hhigh.parallel

/-! ## Predicate lists -/

/-- Two calls on a predicate list that differ at most in related predicates. -/
inductive PredicateCall.Alike (R : String → String → Prop) : PredicateCall → PredicateCall → Prop
  | push (c : Connector) {sql sql' : String} (h : R sql sql') : Alike R (.push c sql) (.push c sql')
  | openGroup (c : Connector) : Alike R (.openGroup c) (.openGroup c)
  | closeGroup : Alike R .closeGroup .closeGroup

/-- Such calls clear nothing. -/
theorem PredicateCall.clear_notMem_of_alike {R : String → String → Prop}
    {calls calls' : List PredicateCall} (h : List.Forall₂ (Alike R) calls calls') :
    .clear ∉ calls ∧ .clear ∉ calls' := by
  induction h with
  | nil => simp
  | cons hcall _ ih => cases hcall <;> simpa using ih

/-- **Two predicate lists that the same calls built** from parallel predicates. -/
def Predicates.Alike (d : Dialect) (P : String → String → Prop) (p p' : Predicates) : Prop :=
  ∃ calls calls', List.Forall₂ (PredicateCall.Alike (Parallel d P)) calls calls' ∧
    p = .ofCalls calls ∧ p' = .ofCalls calls'

namespace Predicates

variable {calls calls' : List PredicateCall} {p p' : Predicates}

theorem Alike.empty : Predicates.Alike d P .empty .empty := ⟨[], [], .nil, rfl, rfl⟩

/-- One more call keeps lists alike. -/
theorem Alike.apply {call call' : PredicateCall} (h : p.Alike d P p')
    (hcall : call.Alike (Parallel d P) call') :
    (p.apply call).Alike d P (p'.apply call') := by
  obtain ⟨calls, calls', hcalls, rfl, rfl⟩ := h
  exact ⟨calls ++ [call], calls' ++ [call'], List.rel_append hcalls (.cons hcall .nil),
    (ofCalls_snoc ..).symm, (ofCalls_snoc ..).symm⟩

/-- The parentheses alone decide about faults. -/
theorem groupFault_of_alike (h : List.Forall₂ (PredicateCall.Alike (Parallel d P)) calls calls')
    (depth : Nat) (afterOpening : Bool) :
    groupFault depth afterOpening (calls.filterMap PredicateCall.token)
      = groupFault depth afterOpening (calls'.filterMap PredicateCall.token) := by
  induction h generalizing depth afterOpening with
  | nil => rfl
  | cons hcall _ ih => cases hcall <;> simp [PredicateCall.token, groupFault, ih]

/-- **The terms of such calls have parallel texts.** Unless the terms start a list or a group, they
bring their separator along. -/
theorem parallel_termsText (h : List.Forall₂ (PredicateCall.Alike (Parallel d P)) calls calls')
    (starts : Bool) :
    Parallel d P (termsText starts calls) (termsText starts calls') ∧
      (starts = false →
        ParallelClause d P (termsText starts calls) (termsText starts calls')) := by
  induction h generalizing starts with
  | nil => exact ⟨.plain isPlain_empty, fun _ => .plain isPlain_empty⟩
  | @cons call call' calls calls' hcall hcalls ih =>
    cases hcall with
    | push c hsql =>
      rw [termsText_push, termsText_push]
      have hrest := (ih false).2 rfl
      cases starts with
      | true => simpa [leadText] using hsql.append hrest
      | false =>
        -- The connector in front separates the predicate from what is before it.
        have hlead : IsPlain (leadText false c) ∧ leadText false c ≠ "" := by cases c <;> decide
        have hclause := (ParallelClause.plain_append hlead.1 hlead.2 hsql).append hrest
        exact ⟨hclause.parallel, fun _ => hclause⟩
    | openGroup c =>
      rw [termsText_openGroup, termsText_openGroup]
      -- The parenthesis separates, with or without a connector.
      have hlead : IsPlain (leadText starts c ++ "(") ∧ leadText starts c ++ "(" ≠ "" := by
        cases starts <;> cases c <;> decide
      have hclause := ParallelClause.plain_append hlead.1 hlead.2 (ih true).1
      exact ⟨hclause.parallel, fun _ => hclause⟩
    | closeGroup =>
      rw [termsText_closeGroup, termsText_closeGroup]
      have hclause := ParallelClause.plain_append (p := ")") (by decide) (by decide) (ih false).1
      exact ⟨hclause.parallel, fun _ => hclause⟩

/-- **Lists that are alike have the same fault or parallel texts.** -/
theorem Alike.render (h : p.Alike d P p') : ResultAlike (Parallel d P) p.render p'.render := by
  obtain ⟨calls, calls', hcalls, rfl, rfl⟩ := h
  obtain ⟨hclear, hclear'⟩ := PredicateCall.clear_notMem_of_alike hcalls
  rw [render_ofCalls hclear, render_ofCalls hclear', groupFault_of_alike hcalls]
  cases groupFault 0 false (calls'.filterMap PredicateCall.token) with
  | some fault => exact .error _
  | none => exact .ok (parallel_termsText hcalls true).1

/-- Lists that are alike are both empty or both not. -/
theorem Alike.isEmpty_eq (h : p.Alike d P p') : p.isEmpty = p'.isEmpty := by
  obtain ⟨calls, calls', hcalls, rfl, rfl⟩ := h
  obtain ⟨hclear, hclear'⟩ := PredicateCall.clear_notMem_of_alike hcalls
  rw [isEmpty_ofCalls hclear, isEmpty_ofCalls hclear']
  cases hcalls <;> rfl

/-- The clauses of lists that are alike. -/
theorem Alike.clause (h : p.Alike d P p') {keyword : String} (hplain : IsPlain keyword)
    (hne : keyword ≠ "") :
    ResultAlike (ParallelClause d P) (p.clause keyword) (p'.clause keyword) := by
  rw [Predicates.clause, Predicates.clause, h.isEmpty_eq]
  split
  · exact .ok (.plain isPlain_empty)
  · exact h.render.map fun _ _ hsql => .plain_append hplain hne hsql

/-- The WHERE clauses of lists that are alike. -/
theorem Alike.whereClause (h : p.Alike d P p') :
    ResultAlike (ParallelClause d P) p.whereClause p'.whereClause :=
  h.clause (by decide) (by decide)

/-- The HAVING clauses of lists that are alike. -/
theorem Alike.havingClause (h : p.Alike d P p') :
    ResultAlike (ParallelClause d P) p.havingClause p'.havingClause :=
  h.clause (by decide) (by decide)

end Predicates

end SqlBuilder
