import SqlBuilder.Identifier
import SqlBuilder.Keyword

/-! # Paging

A statement is bounded by a limit and an offset, where zero stands for "no bound".  Each dialect
has its own idiom for the bounds; a `PagingClause` is the idiom as data, and its text is spread over
the places where SQL wants it: before or after `DISTINCT`, or at the end. -/

namespace SqlBuilder

/-- A bound that is present, that is, not zero. -/
def nonzero (n : UInt64) : Option UInt64 := if n = 0 then none else some n

@[simp] theorem nonzero_zero : nonzero 0 = none := rfl

/-- The sum of two 64-bit numbers, or the largest one if the sum does not fit. -/
def saturatingAdd (a b : UInt64) : UInt64 :=
  if a.toNat + b.toNat < UInt64.size then a + b else UInt64.ofNat (UInt64.size - 1)

/-- The digits of a 64-bit number. -/
def countText (n : UInt64) : String := toString n.toNat

/-- An optional count between two texts, or nothing. -/
def countClause (before : String) (n : Option UInt64) (after : String) : String :=
  match n with
  | some n => before ++ countText n ++ after
  | none => ""

@[simp] theorem countClause_none (before after : String) : countClause before none after = "" := rfl

/-! ## Clauses -/

/-- The paging part of a statement. -/
inductive PagingClause where
  /-- Every row is kept. -/
  | unpaged
  /-- `LIMIT n OFFSET m`; a negative limit is no limit. -/
  | limitOffset (limit : Option Int) (offset : Option UInt64)
  /-- `TOP n` behind SELECT. -/
  | top (count : UInt64)
  /-- `OFFSET m ROWS FETCH NEXT n ROWS ONLY`, which needs an ORDER BY. -/
  | fetchNext (offset : UInt64) (count : Option UInt64)
  /-- `OFFSET m ROWS FETCH FIRST n ROWS ONLY`. -/
  | fetchFirst (offset : Option UInt64) (count : Option UInt64)
  /-- `FIRST n SKIP m` in front of DISTINCT. -/
  | firstSkip (first : Option UInt64) (skip : Option UInt64)
  /-- `ROWS n`: the first rows. -/
  | rowsUpTo (count : UInt64)
  /-- `ROWS a TO b`: the rows from number `a` to number `b`, both counted from one. -/
  | rowsBetween (lower upper : UInt64)
deriving Repr, DecidableEq

namespace PagingClause

/-- The part in front of DISTINCT. -/
def beforeDistinct : PagingClause → String
  | .firstSkip first skip => countClause "FIRST " first " " ++ countClause "SKIP " skip " "
  | _ => ""

/-- The part behind DISTINCT. -/
def afterDistinct : PagingClause → String
  | .top count => "TOP " ++ countText count ++ " "
  | _ => ""

/-- An ORDER BY for a statement that has none, if the idiom needs one. -/
def orderFiller : PagingClause → String
  | .fetchNext _ _ => " ORDER BY (SELECT NULL)"
  | _ => ""

/-- The part at the end, behind ORDER BY. -/
def trailing : PagingClause → String
  | .limitOffset limit offset =>
    (match limit with
      | some n => " LIMIT " ++ toString n
      | none => "")
      ++ countClause " OFFSET " offset ""
  | .fetchNext offset count =>
    " OFFSET " ++ countText offset ++ " ROWS" ++ countClause " FETCH NEXT " count " ROWS ONLY"
  | .fetchFirst offset count =>
    countClause " OFFSET " offset " ROWS" ++ countClause " FETCH FIRST " count " ROWS ONLY"
  | .rowsUpTo count => " ROWS " ++ countText count
  | .rowsBetween lower upper => " ROWS " ++ countText lower ++ " TO " ++ countText upper
  | _ => ""

end PagingClause

/-- A column with its sort order. -/
def Dialect.orderTerm (d : Dialect) (column : String) (order : SortOrder) : String :=
  d.identifier column ++ " " ++ order.keyword

/-- The ORDER BY clause, with the paging idiom's filler if there is nothing to order by. -/
def orderClause (ordering : List String) (paging : PagingClause) : String :=
  if ordering.isEmpty then paging.orderFiller
  else " ORDER BY " ++ ", ".intercalate ordering

/-! ## The idiom of each dialect -/

/-- The largest 64-bit number, which stands for "all rows" as a limit. -/
def allRows : Int := 18446744073709551615

/-- The last row that a ROWS clause can name. -/
def lastRow : UInt64 := 9223372036854775807

/-- A present bound as an integer. -/
def limitOf (limit : UInt64) : Option Int := (nonzero limit).map fun n => (n.toNat : Int)

/-- A limit for dialects that cannot skip rows without one: `all` is the limit that admits every
row. -/
def limitWith (all : Int) (limit offset : UInt64) : Option Int :=
  if limit = 0 then (if offset = 0 then none else some all) else limitOf limit

/-- The ROWS clause that keeps `limit` rows after the first `offset` rows. -/
def rowsClause (limit offset : UInt64) : PagingClause :=
  if offset = 0 then
    match nonzero limit with
    | none => .unpaged
    | some n => .rowsUpTo n
  else if limit = 0 then .rowsBetween (saturatingAdd offset 1) lastRow
  else .rowsBetween (saturatingAdd offset 1) (saturatingAdd offset limit)

namespace Dialect

/-- The paging clause of a SELECT.  The dialect that numbers rows instead has none. -/
def selectPaging (d : Dialect) (limit offset : UInt64) : PagingClause :=
  match d with
  | .standard | .postgreSql => .limitOffset (limitOf limit) (nonzero offset)
  | .mariaDb | .mySql => .limitOffset (limitWith allRows limit offset) (nonzero offset)
  | .sqlite => .limitOffset (limitWith (-1) limit offset) (nonzero offset)
  | .msSql =>
    if offset = 0 then
      match nonzero limit with
      | none => .unpaged
      | some n => .top n
    else .fetchNext offset (nonzero limit)
  | .db2 => .fetchFirst (nonzero offset) (nonzero limit)
  | .firebird => .firstSkip (nonzero limit) (nonzero offset)
  | .oracle => .unpaged

/-- The paging clause at the end of an UPDATE or DELETE, in the dialects that have one. -/
def changePaging (d : Dialect) (limit offset : UInt64) : PagingClause :=
  match d with
  | .standard => .limitOffset (limitOf limit) (nonzero offset)
  | .mariaDb | .mySql => .limitOffset (limitOf limit) none
  | .firebird => rowsClause limit offset
  | _ => .unpaged

end Dialect

/-! ## Windows of numbered rows -/

/-- A selection of rows by the numbers that they get as they are found. -/
inductive RowWindow where
  /-- Every row. -/
  | all
  /-- The rows up to a number. -/
  | upTo (upper : UInt64)
  /-- The rows from a number on. -/
  | fromOn (lower : UInt64)
  /-- The rows from one number up to another. -/
  | between (lower upper : UInt64)
deriving Repr, DecidableEq

/-- The window of `limit` rows from number `offset` on. -/
def RowWindow.ofBounds (limit offset : UInt64) : RowWindow :=
  if offset = 0 then
    match nonzero limit with
    | none => .all
    | some n => .upTo n
  else if limit = 0 then .fromOn offset
  else .between offset (saturatingAdd offset limit - 1)

/-- A query whose rows are cut down to a window, in the dialect that numbers rows. -/
def RowWindow.wrap (w : RowWindow) (sql : String) : String :=
  let inner := Dialect.oracle.aliasName "t0"
  let number := Dialect.oracle.aliasName "rn"
  match w with
  | .all => sql
  | .upTo upper => "SELECT * FROM (" ++ sql ++ ") WHERE ROWNUM <= " ++ countText upper
  | .fromOn lower => "SELECT * FROM (" ++ sql ++ ") WHERE ROWNUM >= " ++ countText lower
  | .between lower upper =>
    "SELECT * FROM (SELECT " ++ inner ++ ".*, ROWNUM AS " ++ number ++ " FROM (" ++ sql ++ ") "
      ++ inner ++ " WHERE ROWNUM <= " ++ countText upper ++ ") WHERE " ++ number ++ " >= "
      ++ countText lower

/-- A query cut down to its bounds in the dialect that numbers rows, and unchanged in the others. -/
def Dialect.window (d : Dialect) (limit offset : UInt64) (sql : String) : String :=
  match d with
  | .oracle => (RowWindow.ofBounds limit offset).wrap sql
  | _ => sql

end SqlBuilder
