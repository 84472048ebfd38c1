import SqlBuilder.Proofs.Combination
import SqlBuilder.Proofs.FilteredChange

/-! # What the text of a SELECT shows

Every clause of a SELECT holds fragments of SQL, in the order in which they were put in.  The text
of a SELECT shows the fragments of all clauses, one after the other and clause by clause, and then
the full texts of the combined queries (`Select.every_fragment_is_shown`).  The exception is a join
with conditions: its shared columns are left out (`Select.shared_column_is_left_out`). -/

namespace SqlBuilder

/-! ## Texts inside a text -/

/-- **Texts that stand in a text one after the other**, in this order and without overlap. -/
def InOrder : List String → String → Prop
  | [], _ => True
  | f :: rest, text => ∃ before after, text = before ++ f ++ after ∧ InOrder rest after

namespace InOrder

variable {f : String} {fs gs : List String} {s t : String}

/-- No texts stand in every text. -/
theorem nil (t : String) : InOrder [] t := trivial

/-- A text stands in itself. -/
theorem self (t : String) : InOrder [t] t :=
  ⟨"", "", by rw [String.empty_append, String.append_empty], trivial⟩

/-- What stands in a text stands in it behind another one. -/
theorem behind (h : InOrder fs t) (s : String) : InOrder fs (s ++ t) := by
  cases fs with
  | nil => exact nil _
  | cons f rest =>
    obtain ⟨before, after, rfl, hrest⟩ := h
    exact ⟨s ++ before, after, by simp only [String.append_assoc], hrest⟩

/-- What stands in two texts stands in both of them together. -/
theorem append (hs : InOrder fs s) (ht : InOrder gs t) : InOrder (fs ++ gs) (s ++ t) := by
  induction fs generalizing s with
  | nil => exact ht.behind s
  | cons f rest ih =>
    obtain ⟨before, after, rfl, hrest⟩ := hs
    exact ⟨before, after ++ t, by simp only [String.append_assoc], ih hrest⟩

/-- What stands in a text stands in it in front of another one. -/
theorem before (h : InOrder fs s) (t : String) : InOrder fs (s ++ t) := by
  simpa using h.append (nil t)

/-- What stands in a text stands in it between two others. -/
theorem between (h : InOrder fs t) (front back : String) : InOrder fs (front ++ t ++ back) :=
  (h.behind front).before back

/-- Each one of the texts stands in the text. -/
theorem of_mem (h : InOrder fs t) (hf : f ∈ fs) : InOrder [f] t := by
  induction fs generalizing t with
  | nil => cases hf
  | cons first rest ih =>
    obtain ⟨before, after, rfl, hrest⟩ := h
    rcases List.mem_cons.1 hf with rfl | hf
    · exact ⟨before, after, rfl, trivial⟩
    · exact (ih hrest hf).behind _

/-- What stands in a part of a text stands in the text. -/
theorem trans (hs : InOrder fs s) (ht : InOrder [s] t) : InOrder fs t := by
  obtain ⟨before, after, rfl, -⟩ := ht
  exact hs.between before after

/-- The characters of what stands in a text are characters of the text. -/
theorem mem_toList (h : InOrder [f] t) {c : Char} (hc : c ∈ f.toList) : c ∈ t.toList := by
  obtain ⟨before, after, rfl, -⟩ := h
  simp [hc]

/-- Texts with a separator between them stand in order. -/
theorem intercalate (separator : String) (fs : List String) :
    InOrder fs (separator.intercalate fs) := by
  induction fs with
  | nil => exact nil _
  | cons f rest ih =>
    cases rest with
    | nil => simpa using self f
    | cons second rest =>
      rw [String.intercalate_cons_cons, String.append_assoc]
      exact (self f).append (ih.behind separator)

/-- What stands in each of some texts stands in all of them together. -/
theorem join {α : Type} {shown : α → List String} {text : α → String} {xs : List α}
    (h : ∀ x ∈ xs, InOrder (shown x) (text x)) :
    InOrder (xs.flatMap shown) (String.join (xs.map text)) := by
  induction xs with
  | nil => exact nil _
  | cons x rest ih =>
    rw [List.flatMap_cons, List.map_cons, String.join_cons]
    exact (h x List.mem_cons_self).append (ih fun y hy => h y (List.mem_cons_of_mem x hy))

end InOrder

/-! ## The clauses of a SELECT -/

/-- The fragments that a join shows: its table, and its conditions or, if it has none, its shared
columns. -/
def Join.fragments (j : Join) : List String :=
  j.table :: if j.conditions.isEmpty then j.sharedColumns else j.conditions

/-- The text of a join shows its fragments. -/
theorem Join.inOrder_render (j : Join) : InOrder j.fragments j.render := by
  have hhead : InOrder [j.table] (j.kind.keyword ++ " " ++ j.table) := (InOrder.self _).behind _
  rw [Join.fragments, Join.render]
  cases hconditions : j.conditions with
  | cons first rest =>
    exact (hhead.before " ON (").append (InOrder.intercalate " AND " (first :: rest)) |>.before ")"
  | nil =>
    cases hshared : j.sharedColumns with
    | nil => exact hhead
    | cons first rest =>
      exact (hhead.before " USING (").append (InOrder.intercalate ", " (first :: rest)) |>.before ")"

/-- The predicate that a token is, if it is one. -/
def PredicateToken.predicate? : PredicateToken → Option String
  | .predicate sql => some sql
  | _ => none

namespace Predicates

/-- The predicates of a list, in order. -/
def fragments (p : Predicates) : List String :=
  p.terms.flatMap fun t => t.token.predicate?.toList

/-- The text of a term shows its predicate. -/
theorem inOrder_termText (t : PredicateTerm) : InOrder t.token.predicate?.toList t.text := by
  obtain ⟨connector, token⟩ := t
  have htoken : InOrder token.predicate?.toList token.text := by
    cases token with
    | opening | closing => exact InOrder.nil _
    | predicate sql => exact InOrder.self sql
  cases connector with
  | none => exact htoken
  | some c => exact htoken.behind _

/-- The clause of a list shows its predicates. -/
theorem inOrder_clause {p : Predicates} {keyword text : String}
    (h : p.clause keyword = .ok text) : InOrder p.fragments text := by
  rw [clause] at h
  split at h
  · next hempty =>
    obtain rfl : p = empty := congrArg mk (List.isEmpty_iff.1 hempty)
    exact InOrder.nil _
  · rw [render] at h
    cases hfault : groupFault 0 false (p.terms.map PredicateTerm.token) with
    | some fault => simp [hfault, refuse, Except.map] at h
    | none =>
      obtain rfl : keyword ++ String.join (p.terms.map PredicateTerm.text) = text := by
        simpa [hfault, Except.map] using h
      exact (InOrder.join fun t _ => inOrder_termText t).behind keyword

end Predicates

/-- The ORDER BY clause shows the terms of the order. -/
theorem inOrder_orderClause (ordering : List String) (paging : PagingClause) :
    InOrder ordering (orderClause ordering paging) := by
  rw [orderClause]
  cases ordering with
  | nil => exact InOrder.nil _
  | cons first rest => exact (InOrder.intercalate ", " (first :: rest)).behind " ORDER BY "

namespace SelectBlock

/-- **The fragments of the clauses of a SELECT**, clause by clause. -/
def fragments (b : SelectBlock) : List String :=
  (if b.distinct then ["DISTINCT"] else []) ++ b.columns ++ b.sources
    ++ b.joins.flatMap Join.fragments ++ b.filter.fragments ++ b.grouping ++ b.having.fragments
    ++ b.ordering

variable (b : SelectBlock) (d : Dialect)

/-- The list of columns shows the columns. -/
theorem inOrder_columnText : InOrder b.columns b.columnText := by
  rw [columnText]
  cases b.columns with
  | nil => exact InOrder.nil _
  | cons first rest => exact InOrder.intercalate ", " (first :: rest)

/-- The FROM clause shows the sources. -/
theorem inOrder_fromClause : InOrder b.sources (b.fromClause d) := by
  rw [fromClause]
  cases b.sources with
  | nil => exact InOrder.nil _
  | cons first rest => exact (InOrder.intercalate ", " (first :: rest)).behind " FROM "

/-- The joins show their tables and conditions. -/
theorem inOrder_joinClause : InOrder (b.joins.flatMap Join.fragments) b.joinClause :=
  InOrder.join fun j _ => j.inOrder_render.behind " "

/-- The GROUP BY clause shows the columns of the groups. -/
theorem inOrder_groupClause : InOrder b.grouping b.groupClause := by
  rw [groupClause]
  cases b.grouping with
  | nil => exact InOrder.nil _
  | cons first rest => exact (InOrder.intercalate ", " (first :: rest)).behind " GROUP BY "

/-- The head of a SELECT shows DISTINCT, the columns, the sources and the joins. -/
theorem inOrder_headText (paging : PagingClause) :
    InOrder ((if b.distinct then ["DISTINCT"] else []) ++ b.columns ++ b.sources
      ++ b.joins.flatMap Join.fragments) (b.headText d paging) := by
  have hdistinct : InOrder (if b.distinct then ["DISTINCT"] else [])
      (if b.distinct then "DISTINCT " else "") := by
    cases b.distinct with
    | false => exact InOrder.nil _
    | true => exact (InOrder.self "DISTINCT").before " "
  have hcolumns := ((hdistinct.behind ("SELECT " ++ paging.beforeDistinct)).before
    paging.afterDistinct).append b.inOrder_columnText
  exact (hcolumns.append (b.inOrder_fromClause d)).append b.inOrder_joinClause

/-- **The text of the clauses shows all their fragments**, in every dialect and with any paging. -/
theorem inOrder_render {text : String} (h : b.render d = .ok text) : InOrder b.fragments text := by
  cases hfilter : b.filter.whereClause with
  | error e => simp [render, hfilter, bind, Except.bind] at h
  | ok filter =>
    cases hhaving : b.having.havingClause with
    | error e => simp [render, hfilter, hhaving, bind, Except.bind] at h
    | ok having =>
      obtain ⟨front, back, hwindow⟩ := d.exists_window_eq b.limit b.offset
      have htext := b.inOrder_headText d (d.selectPaging b.limit b.offset)
        |>.append (Predicates.inOrder_clause hfilter)
        |>.append b.inOrder_groupClause
        |>.append (Predicates.inOrder_clause hhaving)
        |>.append (inOrder_orderClause b.ordering (d.selectPaging b.limit b.offset))
        |>.before (d.selectPaging b.limit b.offset).trailing
        |>.between front back
      rw [← hwindow] at htext
      simp only [render, hfilter, hhaving] at h
      obtain rfl := Except.ok.inj h
      exact htext

end SelectBlock

/-! ## Combined queries -/

namespace Query

/-- **A query that is another one, or is combined with it** at any depth. -/
inductive IsPartOf (q : Query) : Query → Prop
  | self : IsPartOf q q
  | combined {whole : Query} {part : SetOperator × Query} (hmem : part ∈ whole.combined)
    (h : q.IsPartOf part.2) : IsPartOf q whole

/-- Queries with the texts that they have in a dialect. -/
def HaveTexts (d : Dialect) (parts : List (SetOperator × Query)) (texts : List String) : Prop :=
  List.Forall₂ (fun part text => part.2.render d = .ok text) parts texts

variable {d : Dialect}

/-- The texts of combined queries stand in order behind each other. -/
theorem exists_inOrder_renderParts {parts : List (SetOperator × Query)} {text : String}
    (h : renderParts d parts = .ok text) :
    ∃ texts, HaveTexts d parts texts ∧ InOrder texts text := by
  induction parts generalizing text with
  | nil => exact ⟨[], .nil, InOrder.nil _⟩
  | cons part rest ih =>
    obtain ⟨op, q⟩ := part
    rw [renderParts_cons, renderPart_mk] at h
    cases hq : q.render d with
    | error e => simp [hq, joined, bind, Except.bind] at h
    | ok own =>
      cases hrest : renderParts d rest with
      | error e => simp [hq, hrest, joined, bind, Except.bind, pure, Except.pure] at h
      | ok others =>
        obtain ⟨texts, htexts, hothers⟩ := ih hrest
        rw [hq, hrest] at h
        obtain rfl := Except.ok.inj h
        exact ⟨own :: texts, .cons hq htexts, ((InOrder.self own).behind _).append hothers⟩

/-- **The text of a query shows the fragments of its clauses and the full texts of the combined
queries.** -/
theorem exists_inOrder_render {q : Query} {text : String} (h : q.render d = .ok text) :
    ∃ parts, HaveTexts d q.combined parts ∧ InOrder (q.block.fragments ++ parts) text := by
  obtain ⟨block, combined⟩ := q
  rw [render_mk] at h
  cases hblock : block.render d with
  | error e => simp [hblock, joined, bind, Except.bind] at h
  | ok own =>
    cases hcombined : renderParts d combined with
    | error e => simp [hblock, hcombined, joined, bind, Except.bind] at h
    | ok rest =>
      obtain ⟨parts, hparts, hrest⟩ := exists_inOrder_renderParts hcombined
      rw [hblock, hcombined] at h
      obtain rfl := Except.ok.inj h
      exact ⟨parts, hparts, (block.inOrder_render d hblock).append hrest⟩

/-- The text of a query shows those of its parts at any depth. -/
theorem IsPartOf.exists_inOrder {q whole : Query} (hq : q.IsPartOf whole) {text : String}
    (h : whole.render d = .ok text) : ∃ own, q.render d = .ok own ∧ InOrder [own] text := by
  induction hq generalizing text with
  | self => exact ⟨text, h, InOrder.self text⟩
  | combined hmem _ ih =>
    obtain ⟨parts, hparts, hshown⟩ := exists_inOrder_render h
    -- The combined query that leads to `q` has a text, which stands in the whole one.
    obtain ⟨i, hi, rfl⟩ := List.getElem_of_mem hmem
    have hpart := hparts.get hi (hparts.length_eq ▸ hi)
    obtain ⟨own, hown, hin⟩ := ih hpart
    refine ⟨own, hown, hin.trans (hshown.of_mem (List.mem_append_right _ ?_))⟩
    exact List.get_mem _ _

end Query

/-! ## The statement -/

namespace Select

/-- **No clause of a SELECT is dropped.**  A SELECT in any state whose statement has a text shows in
it the full text of every query that is combined with it, at any depth; and in the text of each of
these queries, its own included, stand in order all columns, sources, joined tables with their
conditions, predicates, groups and order terms, DISTINCT in front of them if it is set, and behind
them the texts of the queries combined with that one.  Only the shared columns of a join that has
conditions are no fragments of it. -/
theorem every_fragment_is_shown {s : Select} {sql : String} (h : s.statement false = .ok sql)
    {q : Query} (hq : q.IsPartOf s.query) :
    ∃ text parts, q.render s.dialect = .ok text ∧ InOrder [text] sql ∧
      Query.HaveTexts s.dialect q.combined parts ∧ InOrder (q.block.fragments ++ parts) text := by
  have hmisuse : s.misuse = none := by
    by_contra hne
    exact statement_ne_ok hne sql h
  rw [statement_of_misuse_eq_none hmisuse] at h
  obtain ⟨text, htext, hin⟩ := hq.exists_inOrder h
  obtain ⟨parts, hparts, hshown⟩ := Query.exists_inOrder_render htext
  exact ⟨text, parts, htext, hin, hparts, hshown⟩

/-- A query with clauses of every kind, in a window of rows and with a combined query. -/
def pagedOrders : Select :=
  (new .oracle).run [.distinct true, .columns ["o.id"], .expression "COUNT(*)" (some "n"),
    .fromTable ⟨"orders", some "o"⟩, .join ⟨"users", some "u"⟩ .left, .on "u.id" .equal "o.user",
    .join ⟨"tenants", none⟩ .inner, .sharing "tenant", .filter (.openGroup .and),
    .filter (.compare .and "o.paid" .equal (.bool true)),
    .filter (.compare .or "o.note" .equal .null), .filter .closeGroup, .groupBy "o.id",
    .having (.raw .and "COUNT(*) > 2"), .orderBy "o.id" .descending, .limit 10, .offset 5,
    .combine .unionAll .oracle [.columns ["id"], .fromTable ⟨"archive", none⟩]]

/-- The text of the query. -/
def pagedOrdersText : String :=
  "SELECT * FROM (SELECT \"t0\".*, ROWNUM AS \"rn\" FROM ("
    ++ "SELECT DISTINCT \"o\".\"id\", COUNT(*) AS \"n\" FROM \"orders\" \"o\" "
    ++ "LEFT JOIN \"users\" \"u\" ON (\"u\".\"id\" = \"o\".\"user\") "
    ++ "INNER JOIN \"tenants\" USING (\"tenant\") "
    ++ "WHERE (\"o\".\"paid\" = 1 OR \"o\".\"note\" IS NULL) GROUP BY \"o\".\"id\" "
    ++ "HAVING COUNT(*) > 2 ORDER BY \"o\".\"id\" DESC"
    ++ ") \"t0\" WHERE ROWNUM <= 14) WHERE \"rn\" >= 5 UNION ALL SELECT \"id\" FROM \"archive\""

/-- The fragments of the clauses of the query. -/
def pagedOrdersFragments : List String :=
  ["DISTINCT", "\"o\".\"id\"", "COUNT(*) AS \"n\"", "\"orders\" \"o\"", "\"users\" \"u\"",
    "\"u\".\"id\" = \"o\".\"user\"", "\"tenants\"", "\"tenant\"", "\"o\".\"paid\" = 1",
    "\"o\".\"note\" IS NULL", "\"o\".\"id\"", "COUNT(*) > 2", "\"o\".\"id\" DESC"]

/-- All fragments of the query are shown between the two windows that bound its rows, and the
combined query behind these. -/
theorem every_fragment_of_pagedOrders :
    pagedOrders.statement false = .ok pagedOrdersText ∧
    pagedOrders.query.IsPartOf pagedOrders.query ∧
    ∃ text parts, pagedOrders.query.render .oracle = .ok text ∧ InOrder [text] pagedOrdersText ∧
      Query.HaveTexts .oracle pagedOrders.query.combined parts ∧
      InOrder (pagedOrdersFragments ++ parts) text := by
  have hstatement : pagedOrders.statement false = .ok pagedOrdersText := by decide +kernel
  have hself : pagedOrders.query.IsPartOf pagedOrders.query := .self
  have hfragments : pagedOrders.query.block.fragments = pagedOrdersFragments := by decide +kernel
  rw [← hfragments]
  exact ⟨hstatement, hself, every_fragment_is_shown hstatement hself⟩

/-- **A shared column beside a condition is left out**: the join has both, the text has only the
condition. -/
theorem shared_column_is_left_out :
    let s := (new .standard).run [.fromTable ⟨"a", none⟩, .join ⟨"b", none⟩ .inner,
      .on "x" .equal "y", .sharing "z"]
    s.query.block.joins = [⟨.inner, "\"b\"", ["\"x\" = \"y\""], ["\"z\""]⟩] ∧
    s.statement false = .ok "SELECT * FROM \"a\" INNER JOIN \"b\" ON (\"x\" = \"y\")" ∧
    ¬ InOrder ["\"z\""] "SELECT * FROM \"a\" INNER JOIN \"b\" ON (\"x\" = \"y\")" := by
  refine ⟨by decide +kernel, by decide +kernel, fun hshown => ?_⟩
  have hmem : 'z' ∈ "SELECT * FROM \"a\" INNER JOIN \"b\" ON (\"x\" = \"y\")".toList :=
    hshown.mem_toList (by simp)
  simp at hmem

end Select

end SqlBuilder
