import SqlBuilder.Comparison
import SqlBuilder.Proofs.Parallel.Select

/-! # Templates of statements

The calls that build a statement give names and values, which the dialect of the builder writes in
its own way, and around these there is plain text.  A template keeps the two apart: it is a text
with places for names and values, and `Template.fill` writes these in the way of some dialect.

What one and the same call adds in each dialect is a text that depends on the dialect.  It is that
of a template (`Stock.IsTemplate`) if it depends on the dialect in nothing but the way in which
names and values are written.  This holds of comparisons, lists and clauses if it holds of what
these are made of, so it can be followed through a statement. -/

namespace SqlBuilder

/-! ## Fragments -/

/-- A part of a statement that each dialect writes in its own way. -/
inductive Fragment where
  /-- A dotted name. -/
  | name (dotted : String)
  /-- Another name for a column or a table. -/
  | aliasName (segment : String)
  /-- A table, with another name or without. -/
  | table (t : TableRef)
  /-- A value. -/
  | value (v : Value)
  /-- SQL text, which all dialects leave as it is. -/
  | sql (text : String)

/-- The fragment as a dialect writes it. -/
def Fragment.text (d : Dialect) : Fragment → String
  | .name dotted => d.identifier dotted
  | .aliasName segment => d.aliasName segment
  | .table t => t.render d
  | .value v => d.literal v
  | .sql text => text

/-- A piece of a combined SELECT as it stands in the statement around it. -/
inductive Piece where
  /-- Keywords, punctuation and numbers. -/
  | plain (text : String)
  /-- A fragment that the dialect of the SELECT wrote when it was put in. -/
  | own (f : Fragment)
  /-- A name that the dialect of the statement gives to a query of numbered rows or to its
  numbers. -/
  | window (name : String)
  /-- The text of a SELECT that is combined in turn. -/
  | part (text : String)

/-- The piece in a statement of the dialect `outer`, with fragments by the dialect `own`. -/
def Piece.text (outer own : Dialect) : Piece → String
  | .plain text => text
  | .own f => f.text own
  | .window name => outer.aliasName name
  | .part text => text

/-- A text with places for fragments. -/
abbrev Template : Type := List Piece

/-- The template in a statement of the dialect `outer`, with fragments by the dialect `own`. -/
def Template.fill (outer own : Dialect) (template : Template) : String :=
  String.join (template.map (Piece.text outer own))

/-- A template is filled piece by piece. -/
theorem Template.fill_append (outer own : Dialect) (t u : Template) :
    fill outer own (t ++ u) = fill outer own t ++ fill outer own u := by
  rw [fill, List.map_append, String.join_append]
  rfl

/-- A template of one piece is filled with that. -/
theorem Template.fill_singleton (outer own : Dialect) (piece : Piece) :
    fill outer own [piece] = piece.text outer own := by
  simp [fill]

/-- **Whether a template consists of some fragments and parts**, of plain text and of the names that
stand around numbered rows. -/
def Template.ConsistsOf (fragment : Fragment → Prop) (part : String → Prop) (template : Template) :
    Prop :=
  ∀ piece ∈ template, match piece with
    | .plain text => IsPlain text
    | .own f => fragment f
    | .window name => name = "t0" ∨ name = "rn"
    | .part text => part text

/-- Dialects that write all fragments alike fill a template alike. -/
theorem Template.fill_congr {fragment : Fragment → Prop} {part : String → Prop}
    {template : Template} (h : template.ConsistsOf fragment part) {outer own own' : Dialect}
    (halike : ∀ f, fragment f → f.text own = f.text own') :
    template.fill outer own = template.fill outer own' := by
  refine congrArg String.join (List.map_congr_left fun piece hpiece => ?_)
  have hfrom := h piece hpiece
  cases piece with
  | own f => exact halike f hfrom
  | plain | window | part => rfl

/-! ## Texts that depend on the dialect -/

/-- What a template may consist of, and the dialect of the statement in which it stands. -/
structure Stock where
  /-- The dialect of the statement. -/
  outer : Dialect
  /-- The fragments that there may be. -/
  fragment : Fragment → Prop
  /-- The texts of combined SELECTs that there may be. -/
  part : String → Prop

namespace Stock

/-- **Whether a text that depends on the dialect is that of a template**: one template gives it for
every dialect that may have written its fragments. -/
def IsTemplate (w : Stock) (s : Dialect → String) : Prop :=
  ∃ template : Template, template.ConsistsOf w.fragment w.part ∧ ∀ d, s d = template.fill w.outer d

variable {w : Stock} {s t : Dialect → String} {p text : String}

/-- A piece alone is a template. -/
theorem IsTemplate.of_piece (piece : Piece) (h : Template.ConsistsOf w.fragment w.part [piece]) :
    w.IsTemplate fun d => piece.text w.outer d :=
  ⟨[piece], h, fun _ => (Template.fill_singleton ..).symm⟩

/-- Plain text does not depend on the dialect. -/
theorem IsTemplate.plain (hp : IsPlain p) : w.IsTemplate fun _ => p :=
  .of_piece (.plain p) (List.forall_mem_singleton.2 hp)

/-- A fragment is written by the dialect. -/
theorem IsTemplate.own {f : Fragment} (hf : w.fragment f) : w.IsTemplate fun d => f.text d :=
  .of_piece (.own f) (List.forall_mem_singleton.2 hf)

/-- The names around numbered rows are written by the dialect of the statement. -/
theorem IsTemplate.window {name : String} (h : name = "t0" ∨ name = "rn") :
    w.IsTemplate fun _ => w.outer.aliasName name :=
  .of_piece (.window name) (List.forall_mem_singleton.2 h)

/-- The text of a combined SELECT is there as it is. -/
theorem IsTemplate.part (hpart : w.part text) : w.IsTemplate fun _ => text :=
  .of_piece (.part text) (List.forall_mem_singleton.2 hpart)

/-- **Templates may follow each other.** -/
theorem IsTemplate.append (hs : w.IsTemplate s) (ht : w.IsTemplate t) :
    w.IsTemplate fun d => s d ++ t d := by
  obtain ⟨first, hfirst, hs⟩ := hs
  obtain ⟨second, hsecond, ht⟩ := ht
  refine ⟨first ++ second, fun piece hpiece => ?_, fun d => ?_⟩
  · rcases List.mem_append.1 hpiece with hleft | hright
    · exact hfirst piece hleft
    · exact hsecond piece hright
  · show s d ++ t d = _
    rw [hs, ht, Template.fill_append]

/-- Plain text may stand in front. -/
theorem IsTemplate.plain_append (hp : IsPlain p) (hs : w.IsTemplate s) :
    w.IsTemplate fun d => p ++ s d :=
  (plain hp).append hs

/-- Plain text may stand behind. -/
theorem IsTemplate.append_plain (hs : w.IsTemplate s) (hp : IsPlain p) :
    w.IsTemplate fun d => s d ++ p :=
  hs.append (plain hp)

end Stock

/-! ## Lists that depend on the dialect -/

/-- **A list that depends on the dialect element by element**: it has the same length in all
dialects, and each element is of a kind as it depends on the dialect. -/
def EachElement {α : Type} (P : (Dialect → α) → Prop) (l : Dialect → List α) : Prop :=
  ∃ elements : List (Dialect → α), (∀ a ∈ elements, P a) ∧ ∀ d, l d = elements.map (· d)

namespace EachElement

variable {α β : Type} {P : (Dialect → α) → Prop} {Q : (Dialect → β) → Prop}
  {l l' : Dialect → List α} {a : Dialect → α}

/-- The empty list. -/
theorem nil : EachElement P fun _ => [] := ⟨[], by simp, fun _ => rfl⟩

/-- One list behind the other. -/
theorem append (h : EachElement P l) (h' : EachElement P l') :
    EachElement P fun d => l d ++ l' d := by
  obtain ⟨elements, hP, hl⟩ := h
  obtain ⟨elements', hP', hl'⟩ := h'
  refine ⟨elements ++ elements', List.forall_mem_append.2 ⟨hP, hP'⟩, fun d => ?_⟩
  show l d ++ l' d = _
  rw [hl, hl', List.map_append]

/-- One more element. -/
theorem concat (h : EachElement P l) (ha : P a) : EachElement P fun d => l d ++ [a d] :=
  h.append ⟨[a], List.forall_mem_singleton.2 ha, fun _ => rfl⟩

/-- Elements that are made of the same things in all dialects. -/
theorem of_map {γ : Type} {f : Dialect → γ → α} {cs : List γ} (h : ∀ c ∈ cs, P fun d => f d c) :
    EachElement P fun d => cs.map (f d) :=
  ⟨cs.map fun c d => f d c, List.forall_mem_map.2 h, fun d => by simp⟩

/-- Elements may be turned into others. -/
theorem map (h : EachElement P l) {f : α → β} (hf : ∀ a, P a → Q fun d => f (a d)) :
    EachElement Q fun d => (l d).map f := by
  obtain ⟨elements, hP, hl⟩ := h
  refine ⟨elements.map fun a d => f (a d), List.forall_mem_map.2 fun a ha => hf a (hP a ha),
    fun d => ?_⟩
  show (l d).map f = _
  rw [hl, List.map_map, List.map_map]
  rfl

/-- **The list is empty in all dialects, or it has a last element in all of them.** -/
theorem eq_nil_or_concat (h : EachElement P l) : (∀ d, l d = []) ∨
    ∃ (init : Dialect → List α) (last : Dialect → α), EachElement P init ∧ P last ∧
      ∀ d, l d = init d ++ [last d] := by
  obtain ⟨elements, hP, hl⟩ := h
  rcases List.eq_nil_or_concat elements with rfl | ⟨init, last, rfl⟩
  · exact Or.inl hl
  · rw [List.concat_eq_append, List.forall_mem_append] at hP
    refine Or.inr ⟨fun d => init.map (· d), last, ⟨init, hP.1, fun _ => rfl⟩,
      hP.2 last (List.mem_singleton_self last), fun d => ?_⟩
    rw [hl, List.concat_eq_append, List.map_append]
    rfl

/-- The list is empty in all dialects or in none. -/
theorem isEmpty_eq (h : EachElement P l) (d d' : Dialect) : (l d).isEmpty = (l d').isEmpty := by
  obtain ⟨elements, -, hl⟩ := h
  rw [hl, hl]
  cases elements <;> rfl

end EachElement

namespace Stock

variable {w : Stock} {l : Dialect → List String} {p : String}

/-- Joined templates are a template. -/
theorem isTemplate_join (h : EachElement w.IsTemplate l) :
    w.IsTemplate fun d => String.join (l d) := by
  obtain ⟨elements, helements, hl⟩ := h
  simp only [hl]
  clear hl
  induction elements with
  | nil => exact .plain isPlain_empty
  | cons s elements ih =>
    obtain ⟨hs, hrest⟩ := List.forall_mem_cons.1 helements
    simpa only [List.map_cons, String.join_cons] using hs.append (ih hrest)

/-- Templates with a plain separator between them are a template. -/
theorem isTemplate_intercalate (hp : IsPlain p) (h : EachElement w.IsTemplate l) :
    w.IsTemplate fun d => p.intercalate (l d) := by
  obtain ⟨elements, helements, hl⟩ := h
  simp only [hl]
  clear hl
  induction elements with
  | nil => exact .plain isPlain_empty
  | cons s elements ih =>
    obtain ⟨hs, hrest⟩ := List.forall_mem_cons.1 helements
    -- A separator stands behind an element only if there is another one.
    cases elements with
    | nil => simpa using hs
    | cons => simpa only [List.map_cons, String.intercalate_cons_cons] using
        (hs.append_plain hp).append (ih hrest)

/-- **A clause that is there if a list is not empty.** -/
theorem isTemplate_ite_isEmpty {α : Type} {P : (Dialect → α) → Prop} {l : Dialect → List α}
    (h : EachElement P l) {s t : Dialect → String} (hs : w.IsTemplate s) (ht : w.IsTemplate t) :
    w.IsTemplate fun d => if (l d).isEmpty = true then s d else t d := by
  -- The dialect does not matter for the choice, so take it in any of them.
  by_cases hempty : (l w.outer).isEmpty = true
  · simpa only [h.isEmpty_eq _ w.outer, hempty, if_true] using hs
  · simpa only [h.isEmpty_eq _ w.outer, if_neg hempty] using ht

end Stock

/-! ## Results that depend on the dialect -/

/-- **A result that depends on the dialect**: it fails in all dialects for the same reason, or it
succeeds in all of them with a value of a kind. -/
inductive SucceedsInAll {α : Type} (P : (Dialect → α) → Prop) : (Dialect → DbResult α) → Prop where
  /-- The reason is the same. -/
  | error (e : DbError) : SucceedsInAll P fun _ => .error e
  /-- There is a value in each dialect. -/
  | ok {a : Dialect → α} (h : P a) : SucceedsInAll P fun d => .ok (a d)

namespace SucceedsInAll

variable {α β : Type} {P : (Dialect → α) → Prop} {Q : (Dialect → β) → Prop}
  {x : Dialect → DbResult α}

/-- A computation may go on with the value. -/
theorem bind (h : SucceedsInAll P x) {f : Dialect → α → DbResult β}
    (hf : ∀ a, P a → SucceedsInAll Q fun d => f d (a d)) :
    SucceedsInAll Q fun d => x d >>= f d := by
  cases h with
  | error e => exact .error e
  | ok h => exact hf _ h

/-- The value may be turned into another one. -/
theorem map (h : SucceedsInAll P x) {f : Dialect → α → β} (hf : ∀ a, P a → Q fun d => f d (a d)) :
    SucceedsInAll Q fun d => (x d).map (f d) := by
  cases h with
  | error e => exact .error e
  | ok h => exact .ok (hf _ h)

/-- There is one reason, or there is a value in each dialect. -/
theorem error_or_ok (h : SucceedsInAll P x) :
    (∃ e, ∀ d, x d = .error e) ∨ ∃ a, P a ∧ ∀ d, x d = .ok (a d) := by
  cases h with
  | error e => exact Or.inl ⟨e, fun _ => rfl⟩
  | ok h => exact Or.inr ⟨_, h, fun _ => rfl⟩

end SucceedsInAll

/-! ## Conditions -/

/-- The fragments of a condition. -/
def Condition.fragments : Condition → List Fragment
  | .compare _ column _ v => [.name column, .value v]
  | .member column values _ => .name column :: values.map .value
  | .between column low high _ => [.name column, .value low, .value high]
  | .raw _ sql => [.sql sql]
  | .openGroup _ | .closeGroup => []

section

variable {w : Stock} {column : String}

/-- **A comparison is a template.**  Whether it tests for `NULL` depends on the value and not on the
dialect. -/
theorem isTemplate_comparison (op : Operator) {v : Value} (hcolumn : w.fragment (.name column))
    (hv : w.fragment (.value v)) : w.IsTemplate fun d => d.comparison column op v := by
  have hname : w.IsTemplate fun d => d.identifier column := .own hcolumn
  have hliteral : w.IsTemplate fun d => d.literal v := .own hv
  have hhead := (hname.append_plain (p := " ") (by decide)).append_plain op.isPlain_keyword
  have hsimple := (hhead.append_plain (p := " ") (by decide)).append hliteral
  have hlisted := ((hhead.append_plain (p := " (") (by decide)).append hliteral).append_plain
    (p := ")") (by decide)
  have hnull := hname.append_plain (p := " IS NULL") (by decide)
  have hnotNull := hname.append_plain (p := " IS NOT NULL") (by decide)
  -- Only a comparison for equality has a form of its own for the absent value.
  cases op
  case equal | is =>
    cases v
    case null => exact hnull
    all_goals exact hsimple
  case notEqual | isNot =>
    cases v
    case null => exact hnotNull
    all_goals exact hsimple
  case isIn | isNotIn => cases v <;> exact hlisted
  all_goals cases v <;> exact hsimple

/-- A membership test is a template. -/
theorem isTemplate_membership (negated : Bool) {values : List Value}
    (hcolumn : w.fragment (.name column)) (hvalues : ∀ v ∈ values, w.fragment (.value v)) :
    w.IsTemplate fun d => d.membership column values negated := by
  have hname : w.IsTemplate fun d => d.identifier column := .own hcolumn
  have hliterals : EachElement w.IsTemplate fun d => values.map d.literal :=
    .of_map fun v hv => .own (hvalues v hv)
  have hlist := Stock.isTemplate_intercalate (p := ", ") (by decide) hliterals
  have htest := ((hname.append_plain (p := if negated then " NOT IN (" else " IN (")
    (.ite (by decide) (by decide))).append hlist).append_plain (p := ")") (by decide)
  -- No value is in the empty list, which is said without the column.
  cases values with
  | nil => exact .plain (p := if negated then "1 = 1" else "1 = 0") (.ite (by decide) (by decide))
  | cons => exact htest

/-- A range test is a template. -/
theorem isTemplate_between (negated : Bool) {low high : Value}
    (hcolumn : w.fragment (.name column)) (hlow : w.fragment (.value low))
    (hhigh : w.fragment (.value high)) :
    w.IsTemplate fun d => d.between column low high negated := by
  have hname : w.IsTemplate fun d => d.identifier column := .own hcolumn
  have hlower : w.IsTemplate fun d => d.literal low := .own hlow
  have hupper : w.IsTemplate fun d => d.literal high := .own hhigh
  exact (((hname.append_plain (p := if negated then " NOT BETWEEN " else " BETWEEN ")
    (.ite (by decide) (by decide))).append hlower).append_plain (p := " AND ") (by decide)).append
      hupper

end

/-! ## Predicate lists -/

namespace Predicates

/-- **A term that is the same parenthesis in all dialects or a predicate that is a template**,
behind the same connector. -/
inductive IsTermTemplate (w : Stock) : (Dialect → PredicateTerm) → Prop where
  /-- It opens a group. -/
  | opening (c : Option Connector) : IsTermTemplate w fun _ => ⟨c, .opening⟩
  /-- It closes a group. -/
  | closing (c : Option Connector) : IsTermTemplate w fun _ => ⟨c, .closing⟩
  /-- It is a predicate. -/
  | predicate (c : Option Connector) {sql : Dialect → String} (h : w.IsTemplate sql) :
    IsTermTemplate w fun d => ⟨c, .predicate (sql d)⟩

/-- **A predicate list whose terms are templates.** -/
def IsTemplate (w : Stock) (p : Dialect → Predicates) : Prop :=
  EachElement (IsTermTemplate w) fun d => (p d).terms

variable {w : Stock} {p : Dialect → Predicates}

/-- The next term has the same connector in all dialects. -/
theorem IsTemplate.exists_connectorFor_eq (h : IsTemplate w p) (c : Connector) :
    ∃ connector, ∀ d, (p d).connectorFor c = connector := by
  rcases h.eq_nil_or_concat with hnil | ⟨init, last, -, hlast, hconcat⟩
  · refine ⟨none, fun d => ?_⟩
    rw [connectorFor, hnil]
    rfl
  · -- The last term opens a group in all dialects or in none.
    have hconnector : ∀ d, (p d).connectorFor c
        = if (last d).token = .opening then none else some c := by
      intro d
      rw [connectorFor, hconcat, List.getLast?_concat]
    cases hlast with
    | opening => exact ⟨none, hconnector⟩
    | closing | predicate => exact ⟨some c, hconnector⟩

/-- **The same condition, written in each dialect.** -/
theorem IsTemplate.add (h : IsTemplate w p) {c : Condition}
    (hc : ∀ f ∈ c.fragments, w.fragment f) : IsTemplate w fun d => (p d).add d c := by
  have hpush (connector : Connector) {sql : Dialect → String} (hsql : w.IsTemplate sql) :
      IsTemplate w fun d => (p d).push connector (sql d) := by
    obtain ⟨joined, hjoined⟩ := h.exists_connectorFor_eq connector
    simp only [Predicates.push, hjoined]
    exact h.concat (.predicate joined hsql)
  cases c with
  | compare connector column op v =>
    exact hpush connector (isTemplate_comparison op (hc _ (by simp [Condition.fragments]))
      (hc _ (by simp [Condition.fragments])))
  | member column values negated =>
    exact hpush .and (isTemplate_membership negated (hc _ (by simp [Condition.fragments]))
      fun v hv => hc _ (by simp [Condition.fragments, hv]))
  | between column low high negated =>
    exact hpush .and (isTemplate_between negated (hc _ (by simp [Condition.fragments]))
      (hc _ (by simp [Condition.fragments])) (hc _ (by simp [Condition.fragments])))
  | raw connector sql =>
    exact hpush connector (.own (f := .sql sql) (hc _ (by simp [Condition.fragments])))
  | openGroup connector =>
    obtain ⟨joined, hjoined⟩ := h.exists_connectorFor_eq connector
    simp only [Predicates.add, Condition.call, apply, openGroup, hjoined]
    exact h.concat (.opening joined)
  | closeGroup => exact h.concat (.closing none)

/-- The parentheses have the same fault in all dialects. -/
theorem groupFault_of_isTermTemplate {terms : List (Dialect → PredicateTerm)}
    (h : ∀ t ∈ terms, IsTermTemplate w t) (d d' : Dialect) (depth : Nat) (afterOpening : Bool) :
    groupFault depth afterOpening (terms.map fun t => (t d).token)
      = groupFault depth afterOpening (terms.map fun t => (t d').token) := by
  induction terms generalizing depth afterOpening with
  | nil => rfl
  | cons t terms ih =>
    obtain ⟨ht, hrest⟩ := List.forall_mem_cons.1 h
    cases ht <;> simp [groupFault, ih hrest]

/-- A term is a template with its connector. -/
theorem IsTermTemplate.text {t : Dialect → PredicateTerm} (h : IsTermTemplate w t) :
    w.IsTemplate fun d => (t d).text := by
  have hconnector (c : Connector) : IsPlain (" " ++ c.keyword ++ " ") := by cases c <;> decide
  -- The connector, if there is one, is plain text in front of the token.
  have hlead (c : Option Connector) {token : Dialect → PredicateToken}
      (htoken : w.IsTemplate fun d => (token d).text) :
      w.IsTemplate fun d => PredicateTerm.text ⟨c, token d⟩ := by
    cases c with
    | none => exact htoken
    | some c => exact htoken.plain_append (hconnector c)
  have hopening : w.IsTemplate fun _ => PredicateToken.opening.text := .plain (by decide)
  have hclosing : w.IsTemplate fun _ => PredicateToken.closing.text := .plain (by decide)
  cases h with
  | opening c => exact hlead c hopening
  | closing c => exact hlead c hclosing
  | @predicate c sql hsql =>
    have htoken : w.IsTemplate fun d => (PredicateToken.predicate (sql d)).text := hsql
    exact hlead c htoken

/-- **The list has the same fault in all dialects, or its text is a template.** -/
theorem IsTemplate.render (h : IsTemplate w p) :
    SucceedsInAll w.IsTemplate fun d => (p d).render := by
  have htext : w.IsTemplate fun d => String.join ((p d).terms.map PredicateTerm.text) :=
    Stock.isTemplate_join (h.map fun _ ht => ht.text)
  obtain ⟨terms, hterms, hp⟩ := h
  have hp : ∀ d, (p d).terms = terms.map (· d) := hp
  have hfault : ∀ d, groupFault 0 false ((p d).terms.map PredicateTerm.token)
      = groupFault 0 false ((p w.outer).terms.map PredicateTerm.token) := by
    intro d
    rw [hp, hp, List.map_map, List.map_map]
    exact groupFault_of_isTermTemplate hterms d w.outer 0 false
  simp only [Predicates.render, hfault]
  cases groupFault 0 false ((p w.outer).terms.map PredicateTerm.token) with
  | some fault => exact .error _
  | none => exact .ok htext

/-- So does its clause. -/
theorem IsTemplate.clause (h : IsTemplate w p) {keyword : String} (hkeyword : IsPlain keyword) :
    SucceedsInAll w.IsTemplate fun d => (p d).clause keyword := by
  have hrender := h.render.map fun _ hsql => hsql.plain_append hkeyword
  by_cases hempty : (p w.outer).terms.isEmpty = true
  · simp only [Predicates.clause, Predicates.isEmpty, h.isEmpty_eq _ w.outer, hempty, if_true]
    exact .ok (.plain isPlain_empty)
  · simp only [Predicates.clause, Predicates.isEmpty, h.isEmpty_eq _ w.outer, if_neg hempty]
    exact hrender

end Predicates

end SqlBuilder
