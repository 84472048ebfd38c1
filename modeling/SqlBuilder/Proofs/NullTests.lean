import SqlBuilder.Proofs.WrittenValues

/-! # Comparisons with values that are written as `NULL`

Equality with `NULL` holds of no row, so a comparison with the absent value is written as a test for
`NULL`.  The absent value is not the only one that is written as `NULL`: fractional numbers that are
not finite are, too, and `Dialect.literal_eq_null_iff` says that there are no others.
`Compares.push_predicate` follows the comparisons for equality and for difference through all calls
that make them, in statements as in models, and says for which values the predicate is the test that
it should be. -/

namespace SqlBuilder

/-! ## Values that are written as `NULL` -/

/-- Whether a value is a fractional number that is not finite. -/
def Value.IsNotFinite (v : Value) : Prop := ∃ x : Float, v = .float x ∧ x.isFinite = false

namespace Dialect

variable (d : Dialect)

/-- A byte literal starts with a mark of its own. -/
theorem blobLiteral_ne_null (bytes : List UInt8) : d.blobLiteral bytes ≠ "NULL" := by
  have hmark (mark rest more : String) (c : Char) (hmark : mark.toList.head? = some c)
      (hc : c ≠ 'N') : mark ++ rest ++ more ≠ "NULL" :=
    ne_null_of_head? (((Text.StartsWith.of_append mark rest).append more).head?_eq hmark) hc
  cases d
  case postgreSql => exact hmark "'\\x" _ _ singleQuote (by decide) (by decide)
  case msSql => exact hmark "0x" _ _ '0' (by decide) (by decide)
  case oracle => exact hmark "HEXTORAW('" _ _ 'H' (by decide) (by decide)
  case db2 => exact hmark "BX'" _ _ 'B' (by decide) (by decide)
  all_goals exact hmark "X'" _ _ 'X' (by decide) (by decide)

/-- **The absent value and the numbers that are not finite are written as `NULL`**, and no other
values but SQL text. -/
theorem literal_eq_null_iff {v : Value} (hraw : ∀ sql, v ≠ .raw sql) :
    d.literal v = "NULL" ↔ v = .null ∨ v.IsNotFinite := by
  constructor
  · intro h
    cases v with
    | null => exact Or.inl rfl
    | float x =>
      by_cases hx : x.isFinite = true
      · exact absurd h (d.literal_ne_null (v := .float x) hx)
      · exact Or.inr ⟨x, rfl, Bool.eq_false_iff.2 hx⟩
    | blob bytes => exact absurd h (d.blobLiteral_ne_null bytes)
    | raw sql => exact absurd rfl (hraw sql)
    -- Values of these kinds are ordinary, whatever they are.
    | bool | int | text | timestamp => exact absurd h (d.literal_ne_null trivial)
  · rintro (rfl | ⟨x, rfl, hx⟩)
    · rfl
    · rw [literal, floatLiteral, if_neg (by rw [hx]; decide)]

/-! ## The predicate of a comparison -/

/-- **A comparison for equality or difference as it should be written**: as a test for `NULL` if
the value is written as `NULL`, and with its literal otherwise. -/
structure IsNullTest (column : String) (op : Operator) (v : Value) (predicate : String) : Prop where
  /-- Equality with `NULL` is being `NULL`. -/
  of_equal : d.literal v = "NULL" → op = .equal → predicate = d.identifier column ++ " IS NULL"
  /-- Difference from `NULL` is not being `NULL`. -/
  of_notEqual : d.literal v = "NULL" → op = .notEqual →
    predicate = d.identifier column ++ " IS NOT NULL"
  /-- Another literal stands behind the operator. -/
  of_present : d.literal v ≠ "NULL" →
    predicate = d.identifier column ++ " " ++ op.keyword ++ " " ++ d.literal v

/-- A comparison with a number that is not finite has `NULL` behind the operator. -/
theorem comparison_of_isNotFinite (column : String) {op : Operator}
    (hop : op = .equal ∨ op = .notEqual) {v : Value} (hv : v.IsNotFinite) :
    d.comparison column op v = d.identifier column ++ " " ++ op.keyword ++ " NULL" := by
  obtain ⟨x, rfl, hx⟩ := hv
  have hliteral : d.literal (.float x) = "NULL" :=
    (d.literal_eq_null_iff (by rintro _ ⟨⟩)).2 (Or.inr ⟨x, rfl, hx⟩)
  have hblank : " NULL" = " " ++ "NULL" := by decide
  rw [d.comparison_of_present column hop rfl, hliteral, hblank, ← String.append_assoc]

/-- No test for `NULL` has the operator of equality or difference in it. -/
theorem isNull_ne_operator_null (name : String) {op : Operator}
    (hop : op = .equal ∨ op = .notEqual) :
    name ++ " IS NULL" ≠ name ++ " " ++ op.keyword ++ " NULL" ∧
      name ++ " IS NOT NULL" ≠ name ++ " " ++ op.keyword ++ " NULL" := by
  rw [String.append_assoc, String.append_assoc, ne_eq, ne_eq, String.append_right_inj,
    String.append_right_inj]
  rcases hop with rfl | rfl <;> decide

/-- **A comparison is written as it should be unless the value is a number that is not finite.** -/
theorem isNullTest_comparison_iff (column : String) {op : Operator}
    (hop : op = .equal ∨ op = .notEqual) {v : Value} (hraw : ∀ sql, v ≠ .raw sql) :
    d.IsNullTest column op v (d.comparison column op v) ↔ ¬v.IsNotFinite := by
  constructor
  · intro htest hv
    have hliteral := (d.literal_eq_null_iff hraw).2 (Or.inr hv)
    obtain ⟨hequal, hnotEqual⟩ := isNull_ne_operator_null (d.identifier column) hop
    rw [d.comparison_of_isNotFinite column hop hv] at htest
    rcases hop with rfl | rfl
    · exact hequal (htest.of_equal hliteral rfl).symm
    · exact hnotEqual (htest.of_notEqual hliteral rfl).symm
  · intro hv
    by_cases hnull : v = .null
    · subst hnull
      refine ⟨fun _ h => ?_, fun _ h => ?_, fun h => absurd rfl h⟩
      · rw [h]
        rfl
      · rw [h]
        rfl
    · have hliteral : d.literal v ≠ "NULL" := fun h =>
        ((d.literal_eq_null_iff hraw).1 h).elim hnull hv
      have hpresent : v.isNull = false := by
        cases v with
        | null => exact absurd rfl hnull
        | _ => rfl
      exact ⟨fun h => absurd h hliteral, fun h => absurd h hliteral,
        fun _ => d.comparison_of_present column hop hpresent⟩

end Dialect

/-! ## The calls that compare -/

/-- **The calls that compare a column with a value**, each with the predicates that stand before and
after it: in the WHERE and HAVING lists of statements, and in the queries and changes of models. -/
inductive Compares (d : Dialect) (column : String) :
    Operator → Value → Predicates → Predicates → Prop where
  /-- A condition of a SELECT. -/
  | filter (s : Select) (hs : s.dialect = d) (c : Connector) (op : Operator) (v : Value) :
    Compares d column op v s.query.block.filter
      (s.apply (.filter (.compare c column op v))).query.block.filter
  /-- A condition on the groups of a SELECT. -/
  | having (s : Select) (hs : s.dialect = d) (c : Connector) (op : Operator) (v : Value) :
    Compares d column op v s.query.block.having
      (s.apply (.having (.compare c column op v))).query.block.having
  /-- A condition of an UPDATE. -/
  | update (s : Update) (hs : s.dialect = d) (c : Connector) (op : Operator) (v : Value) :
    Compares d column op v s.data.scope.filter
      (s.apply (.scope (.filter (.compare c column op v)))).data.scope.filter
  /-- A condition of a DELETE. -/
  | delete (s : Delete) (hs : s.dialect = d) (c : Connector) (op : Operator) (v : Value) :
    Compares d column op v s.data.scope.filter
      (s.apply (.scope (.filter (.compare c column op v)))).data.scope.filter
  /-- The row of a model with a primary key. -/
  | key {α : Type} (m : Model α) (key : Value) :
    Compares d column .equal key .empty (m.keyQuery d column key).query.block.filter
  /-- The rows with the value of a unique field. -/
  | duplicates {α : Type} (m : Model α) (v : Value) :
    Compares d column .equal v .empty (m.duplicateQuery d column v none).query.block.filter
  /-- Such rows but for the object's own. -/
  | others {α : Type} (m : Model α) (unique : String) (v key : Value) :
    Compares d column .notEqual key (m.duplicateQuery d unique v none).query.block.filter
      (m.duplicateQuery d unique v (some (column, key))).query.block.filter
  /-- The row that is changed. -/
  | change {α : Type} (m : Model α) (key : Value) (values : List (String × Value)) :
    Compares d column .equal key .empty (m.change d (column, key) values).data.scope.filter
  /-- The row that is removed. -/
  | scope (key : Value) (scope : RowScope) :
    Compares d column .equal key scope.filter (Model.keyScope d column key scope).filter

/-- Every such call adds the predicate of the comparison. -/
theorem Compares.eq_push {d : Dialect} {column : String} {op : Operator} {v : Value}
    {before after : Predicates} (h : Compares d column op v before after) :
    ∃ c, after = before.push c (d.comparison column op v) := by
  cases h with
  | filter s hs c | having s hs c | update s hs c | delete s hs c =>
    subst hs
    exact ⟨c, rfl⟩
  | key | duplicates | others | scope => exact ⟨.and, rfl⟩
  | change m key values =>
    refine ⟨.and, ?_⟩
    rw [m.change_eq_ofPairs]
    rfl

/-- **Every comparison for equality or difference adds one predicate**, and that is the test that it
should be unless the value is a number that is not finite; then `NULL` stands behind the
operator. -/
theorem Compares.push_predicate {d : Dialect} {column : String} {op : Operator} {v : Value}
    {before after : Predicates} (h : Compares d column op v before after)
    (hop : op = .equal ∨ op = .notEqual) (hraw : ∀ sql, v ≠ .raw sql) :
    ∃ c predicate, after = before.push c predicate ∧
      (d.IsNullTest column op v predicate ↔ ¬v.IsNotFinite) ∧
      (v.IsNotFinite → d.literal v = "NULL" ∧
        predicate = d.identifier column ++ " " ++ op.keyword ++ " NULL") := by
  obtain ⟨c, hafter⟩ := h.eq_push
  exact ⟨c, _, hafter, d.isNullTest_comparison_iff column hop hraw, fun hv =>
    ⟨(d.literal_eq_null_iff hraw).2 (Or.inr hv), d.comparison_of_isNotFinite column hop hv⟩⟩

/-- The object's own row is left out by a test for `NULL` if its key is absent. -/
theorem push_predicate_of_absent_key :
    let m : Model Unit := ⟨"users", [], fun _ => .ok ()⟩
    ∃ c, (m.duplicateQuery .standard "name" (.text "x") (some ("id", .null))).query.block.filter =
      (m.duplicateQuery .standard "name" (.text "x") none).query.block.filter.push c
        "\"id\" IS NOT NULL" := by
  intro m
  have hcompares : Compares .standard "id" .notEqual .null
      (m.duplicateQuery .standard "name" (.text "x") none).query.block.filter
      (m.duplicateQuery .standard "name" (.text "x") (some ("id", .null))).query.block.filter :=
    .others m "name" (.text "x") .null
  have hraw : ∀ sql, Value.null ≠ .raw sql := by
    rintro _ ⟨⟩
  have hnull : ¬Value.null.IsNotFinite := by
    rintro ⟨_, ⟨⟩, _⟩
  obtain ⟨c, predicate, hafter, htest, -⟩ := Compares.push_predicate hcompares (Or.inr rfl) hraw
  rw [(htest.2 hnull).of_notEqual rfl rfl] at hafter
  exact ⟨c, hafter⟩

/-- **A comparison with a number that is not finite holds of no row**: its literal is `NULL`, and
it is written as if it were not. -/
theorem comparison_with_null :
    let nan : Float := 0.0 / 0.0
    Dialect.standard.literal (.float nan) = "NULL" ∧
      (((Select.new .standard).fromTable ⟨"t", none⟩).filter
        (.compare .and "a" .equal (.float nan))).statement false
          = .ok "SELECT * FROM \"t\" WHERE \"a\" = NULL" ∧
      (((Select.new .standard).fromTable ⟨"t", none⟩).filter
        (.compare .and "a" .equal .null)).statement false
          = .ok "SELECT * FROM \"t\" WHERE \"a\" IS NULL" := by
  intro nan
  exact ⟨by decide +kernel, by decide +kernel, by decide +kernel⟩

end SqlBuilder
