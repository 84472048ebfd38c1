import SqlBuilder.Model.Queries

/-! # Storing objects

Objects are inserted, updated and deleted by the values they supply.  Values are resolved and, in
fields that are unique, looked for in other rows before anything is written. -/

namespace SqlBuilder.Model

variable {α : Type}

/-! ## Unique values -/

/-- A row that does not count as another one: its primary-key column and the value there. -/
abbrev OwnRow : Type := String × Value

/-- The query for the number of rows with a value, except the object's own. -/
def duplicateQuery (m : Model α) (d : Dialect) (column : String) (v : Value)
    (own : Option OwnRow) : Select :=
  let same := (m.countQuery d).filter (.compare .and column .equal v)
  match own with
  | some (key, keyValue) => same.filter (.compare .and key .notEqual keyValue)
  | none => same

/-- Whether a field's value must not occur in another row. -/
def isUniqueField (f : Field) : Bool := f.options.unique && !f.options.primaryKey

/-- The value to look for in other rows, with its column: none if it is absent. -/
def uniqueValue? (values : List (String × Value)) (f : Field) : Option (String × Value) :=
  values.find? fun v => v.1 == f.column && !v.2.isNull

/-- Look for the value of one field in other rows. -/
def checkUniqueField (m : Model α) (values : List (String × Value)) (own : Option OwnRow)
    (f : Field) : ModelExchange Unit := do
  match uniqueValue? values f with
  | none => return
  | some (column, v) =>
    let taken ← (count (m.duplicateQuery (← Exchange.dialect) column v own)).mapError .database
    if 0 < taken then throw (.validation column .taken)

/-- Look for the values of all unique fields in other rows, in the order of the fields. -/
def checkUnique (m : Model α) (values : List (String × Value)) (own : Option OwnRow) :
    ModelExchange Unit :=
  (m.fields.filter isUniqueField).forM (m.checkUniqueField values own)

/-! ## Writing -/

/-- Whether a column is one of the primary key. -/
def isKeyColumn (m : Model α) (column : String) : Bool :=
  m.fields.any fun f => f.column == column && f.options.primaryKey

/-- The cells of a new row: primary keys that are absent are left to the database. -/
def newRow (m : Model α) (values : List (String × Value)) : List (String × Value) :=
  values.filter fun v => !(v.2.isNull && m.isKeyColumn v.1)

/-- The INSERT of a row. -/
def insertion (m : Model α) (d : Dialect) (row : List (String × Value)) : Insert :=
  (((Insert.new d).into m.table).columns (row.map Prod.fst)).row row

/-- Insert an object and get the number of affected rows. -/
def insert (m : Model α) (clock : Clock) (supplied : Supplied) : ModelExchange UInt64 := do
  let values ← Exchange.ofResult (m.resolve .insertion clock supplied)
  m.checkUnique values none
  (m.insertion (← Exchange.dialect) (m.newRow values)).execute.mapError .database

/-- The scope of the rows with a primary key. -/
def keyScope (d : Dialect) (column : String) (key : Value) (scope : RowScope) : RowScope :=
  scope.apply d (.filter (.compare .and column .equal key))

/-- The UPDATE of the row with a primary key: every other column gets its value. -/
def change (m : Model α) (d : Dialect) (key : OwnRow) (values : List (String × Value)) : Update :=
  let assigned := (values.filter fun v => v.1 != key.1).foldl (fun s v => s.set v.1 v.2)
    ((Update.new d).table m.tableRef)
  assigned.modifyScope (keyScope d key.1 key.2)

/-- The primary key of an object, which must not be absent. -/
def presentKey (m : Model α) (supplied : Supplied) (fault : ValueFault) : ModelResult OwnRow := do
  let column ← m.primaryKey
  let key ← m.keyValue supplied
  if key.isNull then .error (.validation column fault) else .ok (column, key)

/-- Update the row of an object and get the number of affected rows. -/
def update (m : Model α) (clock : Clock) (supplied : Supplied) : ModelExchange UInt64 := do
  let key ← Exchange.ofResult (m.presentKey supplied .updateWithoutKey)
  let values ← Exchange.ofResult (m.resolve .change clock supplied)
  m.checkUnique values (some key)
  (m.change (← Exchange.dialect) key values).execute.mapError .database

/-- Delete the row of an object and get the number of affected rows. -/
def delete (m : Model α) (supplied : Supplied) : ModelExchange UInt64 := do
  let key ← Exchange.ofResult (m.presentKey supplied .deleteWithoutKey)
  let d ← Exchange.dialect
  let removal := ((Delete.new d).fromTable m.tableRef).modifyScope (keyScope d key.1 key.2)
  removal.execute.mapError .database

end SqlBuilder.Model
