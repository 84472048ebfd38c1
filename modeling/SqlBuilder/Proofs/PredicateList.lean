import Mathlib.Data.List.Induction
import Mathlib.Data.List.TakeWhile
import SqlBuilder.Predicates

/-! # The terms of a predicate list

A predicate list decides connectors as it grows, by looking at its last term.  Read from the left,
the same terms come out of the calls alone: a connector is missing exactly at the start of the list
and behind an opening parenthesis (`terms_ofCalls`).  Only the calls behind the last `clear` count
(`ofCalls_sinceClear`). -/

namespace SqlBuilder

namespace PredicateCall

/-- The token that a call adds, unless the call removes tokens. -/
def token : PredicateCall → Option PredicateToken
  | .push _ sql => some (.predicate sql)
  | .openGroup _ => some .opening
  | .closeGroup => some .closing
  | .clear => none

end PredicateCall

/-- **The terms that calls add**, read from the left: `starts` says whether the next token starts
the list or a group. -/
def termsFrom (starts : Bool) : List PredicateCall → List PredicateTerm
  | [] => []
  | .push c sql :: rest =>
    ⟨if starts then none else some c, .predicate sql⟩ :: termsFrom false rest
  | .openGroup c :: rest => ⟨if starts then none else some c, .opening⟩ :: termsFrom true rest
  | .closeGroup :: rest => ⟨none, .closing⟩ :: termsFrom false rest
  | .clear :: rest => termsFrom starts rest

/-- The tokens of the terms are those of the calls, in order. -/
theorem token_termsFrom (starts : Bool) (calls : List PredicateCall) :
    (termsFrom starts calls).map PredicateTerm.token = calls.filterMap PredicateCall.token := by
  fun_induction termsFrom starts calls with
  | case1 => rfl
  | case2 starts c sql rest ih => simp [PredicateCall.token, ih]
  | case3 starts c rest ih => simp [PredicateCall.token, ih]
  | case4 starts rest ih => simp [PredicateCall.token, ih]
  | case5 starts rest ih => exact ih

/-- The first term has no connector if the terms start a list or a group, or if it closes one. -/
theorem connector_head {starts : Bool} {calls : List PredicateCall} {u : PredicateTerm}
    {after : List PredicateTerm} (h : termsFrom starts calls = u :: after)
    (hu : starts = true ∨ u.token = .closing) : u.connector = none := by
  fun_induction termsFrom starts calls with
  | case1 => cases h
  | case2 starts c sql rest | case3 starts c rest =>
    obtain ⟨rfl, -⟩ := List.cons.inj h
    obtain rfl : starts = true := by simpa using hu
    rfl
  | case4 starts rest =>
    obtain ⟨rfl, -⟩ := List.cons.inj h
    rfl
  | case5 starts rest ih => exact ih h hu

/-- **No connector stands behind an opening parenthesis or in front of a closing one.** -/
theorem connector_of_adjacent {starts : Bool} {calls : List PredicateCall} {t u : PredicateTerm}
    {before after : List PredicateTerm} (h : termsFrom starts calls = before ++ t :: u :: after)
    (htu : t.token = .opening ∨ u.token = .closing) : u.connector = none := by
  -- The two terms are the first two, of which the first says whether the second starts a group, or
  -- both are further behind.
  fun_induction termsFrom starts calls generalizing before with
  | case1 => simp at h
  | case2 starts c sql rest ih | case4 starts rest ih =>
    cases before with
    | nil =>
      obtain ⟨rfl, hrest⟩ := List.cons.inj h
      exact connector_head hrest (Or.inr (by simpa using htu))
    | cons b before => exact ih (List.cons.inj h).2
  | case3 starts c rest ih =>
    cases before with
    | nil => exact connector_head (List.cons.inj h).2 (Or.inl rfl)
    | cons b before => exact ih (List.cons.inj h).2
  | case5 starts rest ih => exact ih h

/-- The text of the terms that calls add. -/
def termsText (starts : Bool) (calls : List PredicateCall) : String :=
  String.join ((termsFrom starts calls).map PredicateTerm.text)

@[simp] theorem termsText_nil (starts : Bool) : termsText starts [] = "" := rfl

/-- What stands in front of a token: nothing at a start, the connector between blanks elsewhere. -/
def leadText (starts : Bool) (c : Connector) : String :=
  if starts then "" else " " ++ c.keyword ++ " "

/-- The text of a predicate and the calls behind it. -/
theorem termsText_push (starts : Bool) (c : Connector) (sql : String) (rest : List PredicateCall) :
    termsText starts (.push c sql :: rest) = leadText starts c ++ sql ++ termsText false rest := by
  cases starts <;> simp [termsText, termsFrom, leadText, PredicateTerm.text, PredicateToken.text]

/-- The text of an opening parenthesis and the calls behind it. -/
theorem termsText_openGroup (starts : Bool) (c : Connector) (rest : List PredicateCall) :
    termsText starts (.openGroup c :: rest) = leadText starts c ++ "(" ++ termsText true rest := by
  cases starts <;> simp [termsText, termsFrom, leadText, PredicateTerm.text, PredicateToken.text]

/-- The text of a closing parenthesis and the calls behind it. -/
theorem termsText_closeGroup (starts : Bool) (rest : List PredicateCall) :
    termsText starts (.closeGroup :: rest) = ")" ++ termsText false rest := by
  simp [termsText, termsFrom, PredicateTerm.text, PredicateToken.text]

namespace Predicates

/-- Whether the next token starts the list or a group. -/
def startsGroup (p : Predicates) : Bool := p.terms.getLast?.all fun t => t.token = .opening

/-- The connector of the next token is missing exactly at a start. -/
theorem connectorFor_eq (p : Predicates) (c : Connector) :
    p.connectorFor c = if p.startsGroup then none else some c := by
  rw [connectorFor, startsGroup]
  cases p.terms.getLast? with
  | none => rfl
  | some last => simp

/-- Behind an added term, a group starts iff the term opens one. -/
theorem startsGroup_snoc (terms : List PredicateTerm) (t : PredicateTerm) :
    startsGroup ⟨terms ++ [t]⟩ = decide (t.token = .opening) := by
  simp [startsGroup]

/-- **Calls append their terms.** The list decides connectors as the calls alone do. -/
theorem terms_foldl_apply {calls : List PredicateCall} (h : .clear ∉ calls) (p : Predicates) :
    (calls.foldl apply p).terms = p.terms ++ termsFrom p.startsGroup calls := by
  induction calls generalizing p with
  | nil => simp [termsFrom]
  | cons call rest ih =>
    rw [List.mem_cons, not_or] at h
    rw [List.foldl_cons, ih h.2]
    cases call with
    | push c sql =>
      simp [apply, push, termsFrom, startsGroup_snoc, connectorFor_eq]
    | openGroup c =>
      simp [apply, openGroup, termsFrom, startsGroup_snoc, connectorFor_eq]
    | closeGroup => simp [apply, closeGroup, termsFrom, startsGroup_snoc]
    | clear => exact absurd rfl h.1

/-- **The terms of a list that was built by calls** without `clear`. -/
theorem terms_ofCalls {calls : List PredicateCall} (h : .clear ∉ calls) :
    (ofCalls calls).terms = termsFrom true calls := by
  rw [ofCalls, terms_foldl_apply h]
  rfl

/-- **The text of a list that was built by calls** without `clear`, unless their parentheses do not
match. -/
theorem render_ofCalls {calls : List PredicateCall} (h : .clear ∉ calls) :
    (ofCalls calls).render =
      match groupFault 0 false (calls.filterMap PredicateCall.token) with
      | some fault => refuse fault
      | none => .ok (termsText true calls) := by
  rw [render, terms_ofCalls h, token_termsFrom]
  rfl

/-- A list that was built by calls without `clear` is empty iff there are none. -/
theorem isEmpty_ofCalls {calls : List PredicateCall} (h : .clear ∉ calls) :
    (ofCalls calls).isEmpty = calls.isEmpty := by
  rw [isEmpty, terms_ofCalls h]
  cases calls with
  | nil => rfl
  | cons call rest =>
    cases call with
    | clear => exact absurd List.mem_cons_self h
    | push | openGroup | closeGroup => rfl

/-- One more call changes the list that the calls before it built. -/
theorem ofCalls_snoc (calls : List PredicateCall) (call : PredicateCall) :
    ofCalls (calls ++ [call]) = (ofCalls calls).apply call := by
  rw [ofCalls, List.foldl_append]
  rfl

end Predicates

/-! ## Clearing -/

/-- **The calls after the last `clear`.** -/
def sinceClear (calls : List PredicateCall) : List PredicateCall :=
  (calls.reverse.takeWhile (· ≠ .clear)).reverse

/-- One more call starts over if it clears the list. -/
theorem sinceClear_snoc (calls : List PredicateCall) (call : PredicateCall) :
    sinceClear (calls ++ [call]) = if call = .clear then [] else sinceClear calls ++ [call] := by
  rw [sinceClear, List.reverse_append, List.reverse_singleton, List.singleton_append,
    List.takeWhile_cons]
  by_cases h : call = .clear <;> simp [h, sinceClear]

/-- No call after the last `clear` is a `clear`. -/
theorem clear_notMem_sinceClear (calls : List PredicateCall) : .clear ∉ sinceClear calls := by
  intro h
  simpa using List.mem_takeWhile_imp (List.mem_reverse.1 h)

/-- **Only the calls after the last `clear` count.** -/
theorem Predicates.ofCalls_sinceClear (calls : List PredicateCall) :
    ofCalls (sinceClear calls) = ofCalls calls := by
  -- The last call decides: it clears the list, or is kept by both sides.
  induction calls using List.reverseRecOn with
  | nil => rfl
  | append_singleton calls call ih =>
    rw [sinceClear_snoc, ofCalls_snoc]
    by_cases h : call = .clear
    · subst h; rfl
    · rw [if_neg h, ofCalls_snoc, ih]

end SqlBuilder
