import Mathlib.Tactic.SplitIfs
import SqlBuilder.Proofs.PredicateList

/-! # The grammar of predicate lists

A predicate list spells an expression: operands joined by connectors, where an operand is a
predicate or an expression in parentheses.  The list renders exactly if the calls that built it are
balanced (`groupFault_eq_none_iff`); then the calls spell one expression
(`exists_levels_of_groupFault`, `Expression.eq_of_spells`), and the text is that of the expression
(`Expression.Spells.termsText_append`). -/

namespace SqlBuilder

/-! ## Expressions -/

mutual

/-- An operand. -/
inductive Operand where
  /-- A predicate in SQL. -/
  | predicate (sql : String)
  /-- An expression in parentheses. -/
  | group (e : Expression)

/-- Operands with connectors between them. -/
inductive Expression where
  /-- The first operand and what follows it. -/
  | mk (first : Operand) (rest : Continuation)

/-- What follows an operand. -/
inductive Continuation where
  /-- Nothing. -/
  | done
  /-- A connector and a further operand. -/
  | more (c : Connector) (t : Operand) (rest : Continuation)

end

mutual

/-- The text of an operand. -/
def Operand.text : Operand → String
  | .predicate sql => sql
  | .group e => "(" ++ e.text ++ ")"

/-- **The flat text of an expression.** -/
def Expression.text : Expression → String
  | .mk first rest => first.text ++ rest.text

/-- The text of what follows an operand. -/
def Continuation.text : Continuation → String
  | .done => ""
  | .more c t rest => " " ++ c.keyword ++ " " ++ t.text ++ rest.text

end

/-! ## The calls that spell an expression -/

mutual

/-- Calls that spell an operand; the first of them brings the connector. -/
inductive Operand.Spells : Connector → Operand → List PredicateCall → Prop
  | predicate (c : Connector) (sql : String) :
    Operand.Spells c (.predicate sql) [.push c sql]
  | group (c : Connector) {e : Expression} {calls : List PredicateCall}
    (h : Expression.Spells e calls) :
    Operand.Spells c (.group e) (.openGroup c :: (calls ++ [.closeGroup]))

/-- **Calls that spell an expression.** The connector of the call that starts the first operand does
not matter. -/
inductive Expression.Spells : Expression → List PredicateCall → Prop
  | mk (c : Connector) {first : Operand} {rest : Continuation} {calls calls' : List PredicateCall}
    (h : Operand.Spells c first calls) (hrest : Continuation.Spells rest calls') :
    Expression.Spells (.mk first rest) (calls ++ calls')

/-- Calls that spell what follows an operand: a connector is that of the call that starts the
operand behind it. -/
inductive Continuation.Spells : Continuation → List PredicateCall → Prop
  | done : Continuation.Spells .done []
  | more {c : Connector} {t : Operand} {rest : Continuation} {calls calls' : List PredicateCall}
    (h : Operand.Spells c t calls) (hrest : Continuation.Spells rest calls') :
    Continuation.Spells (.more c t rest) (calls ++ calls')

end

mutual

/-- The text of calls that spell an operand. -/
theorem Operand.Spells.termsText_append : ∀ {c : Connector} {t : Operand}
    {calls : List PredicateCall}, t.Spells c calls → ∀ (starts : Bool) (k : List PredicateCall),
    termsText starts (calls ++ k) = leadText starts c ++ t.text ++ termsText false k
  | _, _, _, .predicate c sql, starts, k => by
    rw [List.singleton_append, termsText_push, Operand.text]
  | _, _, _, .group c h, starts, k => by
    rw [List.cons_append, List.append_assoc, termsText_openGroup,
      Expression.Spells.termsText_append h, List.singleton_append, termsText_closeGroup,
      Operand.text]
    simp only [String.append_assoc]

/-- **The text of calls that spell an expression**, at a start. -/
theorem Expression.Spells.termsText_append : ∀ {e : Expression} {calls : List PredicateCall},
    e.Spells calls → ∀ k : List PredicateCall,
    termsText true (calls ++ k) = e.text ++ termsText false k
  | _, _, .mk c h hrest, k => by
    rw [List.append_assoc, Operand.Spells.termsText_append h,
      Continuation.Spells.termsText_append hrest, Expression.text, leadText, if_pos rfl,
      String.empty_append, String.append_assoc]

/-- The text of calls that spell what follows an operand. -/
theorem Continuation.Spells.termsText_append : ∀ {rest : Continuation}
    {calls : List PredicateCall}, rest.Spells calls → ∀ k : List PredicateCall,
    termsText false (calls ++ k) = rest.text ++ termsText false k
  | _, _, .done, k => by rw [List.nil_append, Continuation.text, String.empty_append]
  | _, _, .more h hrest, k => by
    rw [List.append_assoc, Operand.Spells.termsText_append h,
      Continuation.Spells.termsText_append hrest, Continuation.text, leadText]
    simp [String.append_assoc]

end

/-! ## Balanced calls -/

/-- The number of groups that calls open. -/
def openings : List PredicateCall → Nat
  | [] => 0
  | .openGroup _ :: rest => openings rest + 1
  | _ :: rest => openings rest

/-- The number of groups that calls close. -/
def closings : List PredicateCall → Nat
  | [] => 0
  | .closeGroup :: rest => closings rest + 1
  | _ :: rest => closings rest

/-- **Calls with matching parentheses.** -/
structure Balanced (calls : List PredicateCall) : Prop where
  /-- Before a group is closed, more groups were opened than closed. -/
  matched : ∀ before after, calls = before ++ .closeGroup :: after →
    closings before < openings before
  /-- No group is closed right after it was opened. -/
  filled : ∀ c before after, calls ≠ before ++ .openGroup c :: .closeGroup :: after
  /-- All groups are closed. -/
  closed : openings calls = closings calls

/-- Calls that go on from a state with `depth` open groups, right after an opening parenthesis or
not, and close all of the groups. -/
structure BalancedFrom (depth : Nat) (afterOpening : Bool) (calls : List PredicateCall) :
    Prop where
  /-- Before a group is closed, one is open. -/
  matched : ∀ before after, calls = before ++ .closeGroup :: after →
    closings before < depth + openings before
  /-- No group is closed right after it was opened. -/
  filled : ∀ c before after, calls ≠ before ++ .openGroup c :: .closeGroup :: after
  /-- The group that was opened last is not closed at once. -/
  starts : afterOpening = true → ∀ rest, calls ≠ .closeGroup :: rest
  /-- All groups are closed. -/
  closed : depth + openings calls = closings calls

/-- Balanced calls start from no open group. -/
theorem balanced_iff_balancedFrom (calls : List PredicateCall) :
    Balanced calls ↔ BalancedFrom 0 false calls := by
  constructor
  · intro h
    exact ⟨by simpa using h.matched, h.filled, by simp, by simpa using h.closed⟩
  · intro h
    exact ⟨by simpa using h.matched, h.filled, by simpa using h.closed⟩

/-- No calls are balanced exactly if no group is open. -/
theorem balancedFrom_nil (depth : Nat) (afterOpening : Bool) :
    BalancedFrom depth afterOpening [] ↔ depth = 0 := by
  constructor
  · intro h; simpa [openings, closings] using h.closed
  · rintro rfl
    exact ⟨by simp, by simp, by simp, rfl⟩

/-- A predicate does not change what is open. -/
theorem balancedFrom_push (depth : Nat) (afterOpening : Bool) (c : Connector) (sql : String)
    (rest : List PredicateCall) :
    BalancedFrom depth afterOpening (.push c sql :: rest) ↔ BalancedFrom depth false rest := by
  constructor
  · intro h
    refine ⟨fun before after heq => ?_, fun c' before after heq => ?_, by simp, h.closed⟩
    · exact h.matched (.push c sql :: before) after (congrArg _ heq)
    · exact h.filled c' (.push c sql :: before) after (congrArg _ heq)
  · intro h
    refine ⟨fun before after heq => ?_, fun c' before after heq => ?_, by simp, h.closed⟩
    · cases before with
      | nil => cases heq
      | cons b before =>
        obtain ⟨rfl, hrest⟩ := List.cons.inj heq
        exact h.matched before after hrest
    · cases before with
      | nil => cases heq
      | cons b before => exact h.filled c' before after (List.cons.inj heq).2

/-- An opening parenthesis adds an open group. -/
theorem balancedFrom_openGroup (depth : Nat) (afterOpening : Bool) (c : Connector)
    (rest : List PredicateCall) :
    BalancedFrom depth afterOpening (.openGroup c :: rest) ↔
      BalancedFrom (depth + 1) true rest := by
  constructor
  · intro h
    refine ⟨fun before after heq => ?_, fun c' before after heq => ?_, fun _ k heq => ?_, ?_⟩
    · have := h.matched (.openGroup c :: before) after (congrArg _ heq)
      simp only [openings, closings] at this
      omega
    · exact h.filled c' (.openGroup c :: before) after (congrArg _ heq)
    · exact h.filled c [] k (congrArg _ heq)
    · have := h.closed
      simp only [openings, closings] at this
      omega
  · intro h
    refine ⟨fun before after heq => ?_, fun c' before after heq => ?_, by simp, ?_⟩
    · cases before with
      | nil => cases heq
      | cons b before =>
        obtain ⟨rfl, hrest⟩ := List.cons.inj heq
        have := h.matched before after hrest
        simp only [openings, closings]
        omega
    · -- The new group itself is not closed at once, because the calls behind it start inside it.
      cases before with
      | nil => exact h.starts rfl after (List.cons.inj heq).2
      | cons b before => exact h.filled c' before after (List.cons.inj heq).2
    · have := h.closed
      simp only [openings, closings]
      omega

/-- A closing parenthesis removes an open group, which is not empty. -/
theorem balancedFrom_closeGroup (depth : Nat) (afterOpening : Bool) (rest : List PredicateCall) :
    BalancedFrom depth afterOpening (.closeGroup :: rest) ↔
      depth ≠ 0 ∧ afterOpening = false ∧ BalancedFrom (depth - 1) false rest := by
  constructor
  · intro h
    -- Nothing is in front of the closing parenthesis, so an open group is one of the `depth`.
    have hdepth := h.matched [] rest rfl
    have hafter : afterOpening = false := by
      cases afterOpening with
      | false => rfl
      | true => exact absurd rfl (h.starts rfl rest)
    simp only [openings, closings] at hdepth
    refine ⟨by omega, hafter,
      fun before after heq => ?_, fun c' before after heq => ?_, by simp, ?_⟩
    · have := h.matched (.closeGroup :: before) after (congrArg _ heq)
      simp only [openings, closings] at this
      omega
    · exact h.filled c' (.closeGroup :: before) after (congrArg _ heq)
    · have := h.closed
      simp only [openings, closings] at this
      omega
  · rintro ⟨hdepth, rfl, h⟩
    refine ⟨fun before after heq => ?_, fun c' before after heq => ?_, by simp, ?_⟩
    · cases before with
      | nil =>
        simp only [openings, closings]
        omega
      | cons b before =>
        obtain ⟨rfl, hrest⟩ := List.cons.inj heq
        have := h.matched before after hrest
        simp only [openings, closings]
        omega
    · cases before with
      | nil => cases heq
      | cons b before => exact h.filled c' before after (List.cons.inj heq).2
    · have := h.closed
      simp only [openings, closings]
      omega

/-- **The check of the parentheses finds no fault exactly in balanced calls.** -/
theorem groupFault_eq_none_iff {calls : List PredicateCall} (h : .clear ∉ calls) (depth : Nat)
    (afterOpening : Bool) :
    Predicates.groupFault depth afterOpening (calls.filterMap PredicateCall.token) = none ↔
      BalancedFrom depth afterOpening calls := by
  induction calls generalizing depth afterOpening with
  | nil => simp [Predicates.groupFault, balancedFrom_nil]
  | cons call rest ih =>
    rw [List.mem_cons, not_or] at h
    cases call with
    | push c sql => exact (ih h.2 depth false).trans (balancedFrom_push ..).symm
    | openGroup c => exact (ih h.2 (depth + 1) true).trans (balancedFrom_openGroup ..).symm
    | closeGroup =>
      rw [balancedFrom_closeGroup, ← ih h.2]
      simp only [List.filterMap_cons, PredicateCall.token, Predicates.groupFault]
      split_ifs <;> simp_all
    | clear => exact absurd rfl h.1

/-! ## Balanced calls spell an expression -/

/-- Calls that go on at several levels: what follows an operand at each level, with closing
parentheses between the levels. -/
inductive SpellLevels : List Continuation → List PredicateCall → Prop
  | last {k : Continuation} {calls : List PredicateCall} (h : k.Spells calls) :
    SpellLevels [k] calls
  | level {k : Continuation} {ks : List Continuation} {calls calls' : List PredicateCall}
    (h : k.Spells calls) (hks : SpellLevels ks calls') :
    SpellLevels (k :: ks) (calls ++ .closeGroup :: calls')

/-- An operand in front of the first level belongs to that level. -/
theorem SpellLevels.cons_operand {k : Continuation} {ks : List Continuation} {c : Connector}
    {t : Operand} {calls calls' : List PredicateCall} (ht : t.Spells c calls)
    (h : SpellLevels (k :: ks) calls') : SpellLevels (.more c t k :: ks) (calls ++ calls') := by
  cases h with
  | last hk => exact .last (.more ht hk)
  | level hk hks =>
    rw [← List.append_assoc]
    exact .level (.more ht hk) hks

/-- What a level with an operand spells is an expression. -/
theorem Expression.spells_of_more {c : Connector} {t : Operand} {k : Continuation}
    {calls : List PredicateCall} (h : (Continuation.more c t k).Spells calls) :
    (Expression.mk t k).Spells calls := by
  cases h with
  | more ht hk => exact .mk c ht hk

/-- **Calls without a fault spell a level for every open group and one more.** -/
theorem exists_levels_of_groupFault {calls : List PredicateCall} (h : .clear ∉ calls)
    {depth : Nat} {afterOpening : Bool}
    (hfault : Predicates.groupFault depth afterOpening
      (calls.filterMap PredicateCall.token) = none) :
    ∃ k ks, ks.length = depth ∧ SpellLevels (k :: ks) calls := by
  induction calls generalizing depth afterOpening with
  | nil =>
    obtain rfl : depth = 0 := by simpa [Predicates.groupFault] using hfault
    exact ⟨.done, [], rfl, .last .done⟩
  | cons call rest ih =>
    rw [List.mem_cons, not_or] at h
    cases call with
    | push c sql =>
      obtain ⟨k, ks, hlength, hks⟩ := ih h.2 hfault
      exact ⟨.more c (.predicate sql) k, ks, hlength, hks.cons_operand (.predicate c sql)⟩
    | openGroup c =>
      -- The first level of the calls behind the parenthesis is the inside of the group.
      obtain ⟨inside, ks, hlength, hks⟩ := ih h.2 hfault
      obtain ⟨k, ks, rfl⟩ := List.exists_cons_of_length_eq_add_one hlength
      cases hks with
      | @level _ _ inner outer hinside houter =>
        cases inside with
        | done =>
          -- An empty inside would be a fault: the group would be closed at once.
          cases hinside
          exact absurd hfault (by simp [PredicateCall.token, Predicates.groupFault])
        | more c' t k' =>
          have hgroup := Operand.Spells.group c (Expression.spells_of_more hinside)
          refine ⟨.more c (.group (.mk t k')) k, ks, by simpa using hlength, ?_⟩
          simpa using houter.cons_operand hgroup
    | closeGroup =>
      -- What is behind the parenthesis spells the levels outside; the level it ends is done.
      have hstep : depth ≠ 0 ∧ Predicates.groupFault (depth - 1) false
          (rest.filterMap PredicateCall.token) = none := by
        simp only [List.filterMap_cons, PredicateCall.token, Predicates.groupFault] at hfault
        split_ifs at hfault with hdepth hafter
        exact ⟨hdepth, hfault⟩
      obtain ⟨k, ks, hlength, hks⟩ := ih h.2 hstep.2
      exact ⟨.done, k :: ks, by simp; omega, .level .done hks⟩
    | clear => exact absurd rfl h.1

/-- Calls without a fault spell an expression, unless there are none. -/
theorem Expression.exists_spells {calls : List PredicateCall} (h : .clear ∉ calls)
    (hne : calls ≠ [])
    (hfault : Predicates.groupFault 0 false (calls.filterMap PredicateCall.token) = none) :
    ∃ e : Expression, e.Spells calls := by
  obtain ⟨k, ks, hlength, hks⟩ := exists_levels_of_groupFault h hfault
  obtain rfl : ks = [] := List.eq_nil_of_length_eq_zero hlength
  cases hks with
  | last hk =>
    cases k with
    | done =>
      cases hk
      exact absurd rfl hne
    | more c t k => exact ⟨.mk t k, spells_of_more hk⟩
  | level _ hks => cases hks

/-! ## The expression is unique -/

/-- Calls that spell an operand do not start with a closing parenthesis. -/
theorem Operand.Spells.append_ne_closeGroup {c : Connector} {t : Operand}
    {calls : List PredicateCall} (h : t.Spells c calls) (k rest : List PredicateCall) :
    calls ++ k ≠ .closeGroup :: rest := by
  cases h <;> simp

mutual

/-- Calls in front of others spell at most one operand. -/
theorem Operand.Spells.unique : ∀ {c c' : Connector} {t t' : Operand}
    {calls calls' : List PredicateCall}, t.Spells c calls → t'.Spells c' calls' →
    ∀ {k k' : List PredicateCall}, calls ++ k = calls' ++ k' → c = c' ∧ t = t' ∧ k = k'
  | _, _, _, _, _, _, .predicate c sql, h', k, k', heq => by
    cases h' with
    | predicate c' sql' =>
      obtain ⟨hcall, rfl⟩ := List.cons.inj heq
      cases hcall
      exact ⟨rfl, rfl, rfl⟩
    | group c' h' => cases (List.cons.inj heq).1
  | _, _, _, _, _, _, .group c h, h', k, k', heq => by
    cases h' with
    | predicate c' sql' => cases (List.cons.inj heq).1
    | group c' h' =>
      obtain ⟨hcall, hrest⟩ := List.cons.inj heq
      cases hcall
      simp only [List.append_eq, List.append_assoc, List.singleton_append] at hrest
      obtain ⟨rfl, rfl⟩ := Expression.Spells.unique h h' hrest
      exact ⟨rfl, rfl, rfl⟩

/-- Calls in front of a closing parenthesis spell at most one expression. -/
theorem Expression.Spells.unique : ∀ {e e' : Expression} {calls calls' : List PredicateCall},
    e.Spells calls → e'.Spells calls' → ∀ {k k' : List PredicateCall},
    calls ++ .closeGroup :: k = calls' ++ .closeGroup :: k' → e = e' ∧ k = k'
  | _, _, _, _, .mk c h hrest, .mk c' h' hrest', k, k', heq => by
    rw [List.append_assoc, List.append_assoc] at heq
    obtain ⟨rfl, rfl, heq⟩ := Operand.Spells.unique h h' heq
    obtain ⟨rfl, rfl⟩ := Continuation.Spells.unique hrest hrest' heq
    exact ⟨rfl, rfl⟩

/-- Calls in front of a closing parenthesis spell at most one continuation. -/
theorem Continuation.Spells.unique : ∀ {rest rest' : Continuation}
    {calls calls' : List PredicateCall}, rest.Spells calls → rest'.Spells calls' →
    ∀ {k k' : List PredicateCall}, calls ++ .closeGroup :: k = calls' ++ .closeGroup :: k' →
    rest = rest' ∧ k = k'
  | _, _, _, _, .done, h', k, k', heq => by
    cases h' with
    | done => exact ⟨rfl, (List.cons.inj heq).2⟩
    | more h' hrest' =>
      -- One side ends here with a parenthesis, where the other starts an operand.
      rw [List.append_assoc] at heq
      exact absurd heq.symm (h'.append_ne_closeGroup _ _)
  | _, _, _, _, .more h hrest, h', k, k', heq => by
    cases h' with
    | done =>
      rw [List.append_assoc] at heq
      exact absurd heq (h.append_ne_closeGroup _ _)
    | more h' hrest' =>
      rw [List.append_assoc, List.append_assoc] at heq
      obtain ⟨rfl, rfl, heq⟩ := Operand.Spells.unique h h' heq
      obtain ⟨rfl, rfl⟩ := Continuation.Spells.unique hrest hrest' heq
      exact ⟨rfl, rfl⟩

end

/-- **Calls spell at most one expression.** -/
theorem Expression.eq_of_spells {e e' : Expression} {calls : List PredicateCall}
    (h : e.Spells calls) (h' : e'.Spells calls) : e = e' :=
  (h.unique h' (k := []) rfl).1

/-! ## The main result -/

/-- **What a predicate list renders to.** The list renders exactly if the calls after the last
`clear` are balanced.  Then, unless the list is empty, these calls spell exactly one expression, and
the text of the list is that of the expression; no connector stands behind an opening parenthesis or
in front of a closing one. -/
theorem Predicates.render_spec (calls : List PredicateCall) :
    ((∃ sql, (ofCalls calls).render = .ok sql) ↔ Balanced (sinceClear calls)) ∧
    (∀ sql, (ofCalls calls).render = .ok sql → (ofCalls calls).isEmpty = false →
      ∃ e : Expression, (∀ e' : Expression, e'.Spells (sinceClear calls) ↔ e' = e) ∧
        sql = e.text) ∧
    (∀ before t u after, (ofCalls calls).terms = before ++ t :: u :: after →
      t.token = .opening ∨ u.token = .closing → u.connector = none) := by
  -- Past the last `clear`, the list is that of calls without one.
  have hclear := clear_notMem_sinceClear calls
  rw [← ofCalls_sinceClear]
  generalize sinceClear calls = calls at hclear
  have hbalanced := groupFault_eq_none_iff hclear 0 false
  rw [← balanced_iff_balancedFrom] at hbalanced
  rw [render_ofCalls hclear, isEmpty_ofCalls hclear, terms_ofCalls hclear, ← hbalanced]
  refine ⟨?_, ?_, fun before t u after h htu => connector_of_adjacent h htu⟩
  · cases groupFault 0 false (calls.filterMap PredicateCall.token) with
    | some fault => simp [refuse]
    | none => simp
  · intro sql hsql hne
    cases hfault : groupFault 0 false (calls.filterMap PredicateCall.token) with
    | some fault => simp [hfault, refuse] at hsql
    | none =>
      obtain rfl : termsText true calls = sql := by simpa [hfault] using hsql
      obtain ⟨e, he⟩ := Expression.exists_spells hclear (by simpa using hne) hfault
      refine ⟨e, fun e' => ⟨fun he' => Expression.eq_of_spells he' he, fun heq => heq ▸ he⟩, ?_⟩
      simpa using he.termsText_append []

/-- A group at the start, a group in a group and a group behind a group. -/
example : (Predicates.ofCalls [.openGroup .or, .openGroup .or, .push .or "a", .closeGroup,
    .push .or "b", .closeGroup, .openGroup .and, .push .or "c", .closeGroup]).render
      = .ok "((a) OR b) AND (c)" := by
  decide

end SqlBuilder
