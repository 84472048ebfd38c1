import SqlBuilder.Identifier
import SqlBuilder.Literal
import SqlBuilder.Predicates

/-! # Comparisons

The predicates that compare a column with values, and the calls that add them to the WHERE or
HAVING list of a statement.  A test for equality with the absent value becomes `IS NULL`. -/

namespace SqlBuilder

namespace Dialect

/-- A column compared with a value. -/
def comparison (d : Dialect) (column : String) (op : Operator) (v : Value) : String :=
  let name := d.identifier column
  match op, v with
  | .equal, .null | .is, .null => name ++ " IS NULL"
  | .notEqual, .null | .isNot, .null => name ++ " IS NOT NULL"
  | .isIn, v | .isNotIn, v => name ++ " " ++ op.keyword ++ " (" ++ d.literal v ++ ")"
  | op, v => name ++ " " ++ op.keyword ++ " " ++ d.literal v

/-- A column tested for membership in a list.  An empty list has no SQL form; its truth value
stands in its place. -/
def membership (d : Dialect) (column : String) (values : List Value) (negated : Bool) : String :=
  if values.isEmpty then (if negated then "1 = 1" else "1 = 0")
  else
    d.identifier column ++ (if negated then " NOT IN (" else " IN (")
      ++ ", ".intercalate (values.map d.literal) ++ ")"

/-- A column tested for lying between two values. -/
def between (d : Dialect) (column : String) (low high : Value) (negated : Bool) : String :=
  d.identifier column ++ (if negated then " NOT BETWEEN " else " BETWEEN ")
    ++ d.literal low ++ " AND " ++ d.literal high

end Dialect

/-! ## Conditions -/

/-- A condition to be added to a WHERE or HAVING list. -/
inductive Condition where
  /-- A comparison of a column with a value. -/
  | compare (c : Connector) (column : String) (op : Operator) (v : Value)
  /-- A test for membership in a list. -/
  | member (column : String) (values : List Value) (negated : Bool)
  /-- A test for lying between two values. -/
  | between (column : String) (low high : Value) (negated : Bool)
  /-- SQL text as it is. -/
  | raw (c : Connector) (sql : String)
  /-- The start of a group. -/
  | openGroup (c : Connector)
  /-- The end of a group. -/
  | closeGroup

/-- The change of a predicate list that a condition means in a dialect. -/
def Condition.call (d : Dialect) : Condition → PredicateCall
  | .compare c column op v => .push c (d.comparison column op v)
  | .member column values negated => .push .and (d.membership column values negated)
  | .between column low high negated => .push .and (d.between column low high negated)
  | .raw c sql => .push c sql
  | .openGroup c => .openGroup c
  | .closeGroup => .closeGroup

/-- The list after a condition is added in a dialect. -/
def Predicates.add (p : Predicates) (d : Dialect) (c : Condition) : Predicates :=
  p.apply (c.call d)

end SqlBuilder
