import SqlBuilder.Execution
import SqlBuilder.Model

/-! # Queries of models

Queries for the rows of a model, turned into objects, and for their number. -/

namespace SqlBuilder.Model

variable {α : Type}

/-- The table of a model. -/
def tableRef (m : Model α) : TableRef := ⟨m.table, none⟩

/-- The query for the fields of all rows. -/
def select (m : Model α) (d : Dialect) : Select :=
  ((Select.new d).columns m.columns).fromTable m.tableRef

/-- The objects of the rows of a query. -/
def fetch (m : Model α) (s : Select) : ModelExchange (List α) :=
  (s.fetch m.hydrate).mapError .database

/-- All objects in the order of the primary key. -/
def all (m : Model α) : ModelExchange (List α) := do
  let key ← Exchange.ofResult m.primaryKey
  m.fetch ((m.select (← Exchange.dialect)).orderBy key .ascending)

/-- The query for at most two rows with a primary key: one more than there should be. -/
def keyQuery (m : Model α) (d : Dialect) (column : String) (key : Value) : Select :=
  ((m.select d).filter (.compare .and column .equal key)).limit 2

/-- The object with a primary key. -/
def get (m : Model α) (key : Value) : ModelExchange α := do
  let column ← Exchange.ofResult m.primaryKey
  match ← m.fetch (m.keyQuery (← Exchange.dialect) column key) with
  | [] => throw .notFound
  | [object] => return object
  | _ => throw .multipleObjects

/-- The object with a primary key, or nothing if there is none. -/
def get? (m : Model α) (key : Value) : ModelExchange (Option α) :=
  ExceptT.mk ((ExceptT.run (m.get key)).map fun
    | .ok object => .ok (some object)
    | .error .notFound => .ok none
    | .error e => .error e)

/-! ## Counting -/

/-- The query for the number of rows. -/
def countQuery (m : Model α) (d : Dialect) : Select :=
  ((Select.new d).expression "COUNT(*)" (some "count")).fromTable m.tableRef

/-- The number in the column `count` of the first row of a query; none or a negative one counts as
zero. -/
def count (s : Select) : DbExchange Nat := do
  let reader ← s.open
  match reader.read with
  | (.error e, _) => throw e
  | (.ok false, _) => return 0
  | (.ok true, reader) =>
    match reader.record with
    | none => return 0
    | some row =>
      let n ← Exchange.ofResult ((row.value "count").bind Value.toInt64)
      return n.toInt.toNat

/-- The number of rows. -/
def countAll (m : Model α) : ModelExchange Nat := do
  (count (m.countQuery (← Exchange.dialect))).mapError .database

end SqlBuilder.Model
