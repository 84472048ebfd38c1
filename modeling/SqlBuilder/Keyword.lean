import SqlBuilder.Error

/-! # Keywords

Connectors, comparison operators, kinds of joins, sort orders and set operators: how statements
write them, and which texts are read as them.  Reading disregards the case of ASCII letters and
extra blanks. -/

namespace SqlBuilder

/-- The dialect that a text names, or a refusal. -/
def Dialect.read (s : String) : DbResult Dialect := orRefuse (ofText? s) (.unknownDialect s)

/-! ## Connectors -/

/-- What joins a predicate to the ones before it. -/
inductive Connector where
  | and
  | or
deriving Repr, DecidableEq

namespace Connector

/-- The keyword of a connector. -/
def keyword : Connector → String
  | .and => "AND"
  | .or => "OR"

/-- The connector that a text names. -/
def read (s : String) : DbResult Connector :=
  let word := Text.upper (Text.trim s)
  if word = "AND" then .ok .and
  else if word = "OR" then .ok .or
  else refuse (.unknownConnector word)

end Connector

/-! ## Comparison operators -/

/-- A comparison of a column with a value. -/
inductive Operator where
  | equal
  | notEqual
  | less
  | lessEqual
  | greater
  | greaterEqual
  | like
  | notLike
  | isIn
  | isNotIn
  | is
  | isNot
deriving Repr, DecidableEq

namespace Operator

/-- The spelling of an operator. -/
def keyword : Operator → String
  | .equal => "="
  | .notEqual => "<>"
  | .less => "<"
  | .lessEqual => "<="
  | .greater => ">"
  | .greaterEqual => ">="
  | .like => "LIKE"
  | .notLike => "NOT LIKE"
  | .isIn => "IN"
  | .isNotIn => "NOT IN"
  | .is => "IS"
  | .isNot => "IS NOT"

/-- All operators. -/
def all : List Operator :=
  [.equal, .notEqual, .less, .lessEqual, .greater, .greaterEqual, .like, .notLike, .isIn, .isNotIn,
    .is, .isNot]

/-- The texts in upper case that are read as an operator. -/
def spellings : Operator → List String
  | .equal => ["=", "=="]
  | .notEqual => ["<>", "!="]
  | op => [op.keyword]

/-- The operator that a text names. -/
def read (s : String) : DbResult Operator :=
  let word := Text.upper (Text.singleSpaced s)
  orRefuse (all.find? fun op => op.spellings.contains word) (.unknownOperator s)

end Operator

/-! ## Kinds of joins -/

/-- A kind of join. -/
inductive JoinKind where
  | inner
  | left
  | leftOuter
  | right
  | rightOuter
  | full
  | fullOuter
  | cross
  | natural
deriving Repr, DecidableEq

namespace JoinKind

/-- The word in front of `JOIN`. -/
def word : JoinKind → String
  | .inner => "INNER"
  | .left => "LEFT"
  | .leftOuter => "LEFT OUTER"
  | .right => "RIGHT"
  | .rightOuter => "RIGHT OUTER"
  | .full => "FULL"
  | .fullOuter => "FULL OUTER"
  | .cross => "CROSS"
  | .natural => "NATURAL"

/-- The keyword of a kind of join. -/
def keyword (kind : JoinKind) : String := kind.word ++ " JOIN"

/-- All kinds of joins. -/
def all : List JoinKind :=
  [.inner, .left, .leftOuter, .right, .rightOuter, .full, .fullOuter, .cross, .natural]

/-- The upper-case texts, without a final ` JOIN`, that are read as a kind of join. -/
def spellings : JoinKind → List String
  | .inner => ["", "JOIN", "INNER"]
  | kind => [kind.word]

/-- A text without a final ` JOIN`. -/
def dropJoin (s : String) : String :=
  let cs := s.toList
  let ending := " JOIN".toList
  if ending.isSuffixOf cs then String.ofList (cs.take (cs.length - ending.length)) else s

/-- The kind of join that a text names; the word `JOIN` may be left out. -/
def read (s : String) : DbResult JoinKind :=
  let word := dropJoin (Text.upper (Text.singleSpaced s))
  orRefuse (all.find? fun kind => kind.spellings.contains word) (.unknownJoin s)

end JoinKind

/-! ## Sort orders -/

/-- A direction of sorting. -/
inductive SortOrder where
  | ascending
  | descending
deriving Repr, DecidableEq

namespace SortOrder

/-- The keyword of a sort order. -/
def keyword : SortOrder → String
  | .ascending => "ASC"
  | .descending => "DESC"

/-- The sort order that a text names. -/
def read (s : String) : DbResult SortOrder :=
  let word := Text.upper (Text.trim s)
  if word = "ASC" then .ok .ascending
  else if word = "DESC" then .ok .descending
  else refuse (.unknownOrder word)

end SortOrder

/-! ## Set operators -/

/-- An operator between two SELECTs. -/
inductive SetOperator where
  | union
  | unionAll
  | intersect
  | except
deriving Repr, DecidableEq

namespace SetOperator

/-- The keyword of a set operator. -/
def keyword : SetOperator → String
  | .union => "UNION"
  | .unionAll => "UNION ALL"
  | .intersect => "INTERSECT"
  | .except => "EXCEPT"

/-- All set operators. -/
def all : List SetOperator := [.union, .unionAll, .intersect, .except]

/-- The texts in upper case that are read as a set operator. -/
def spellings : SetOperator → List String
  | .except => ["EXCEPT", "MINUS"]
  | op => [op.keyword]

/-- The set operator that a text names. -/
def read (s : String) : DbResult SetOperator :=
  let word := Text.upper (Text.singleSpaced s)
  orRefuse (all.find? fun op => op.spellings.contains word) (.unknownSetOperator s)

end SetOperator

end SqlBuilder
