import SqlBuilder.Entries
import SqlBuilder.Json
import SqlBuilder.Value.Conversion

/-! # Records

A record is a row of a result: columns with values, in order.  A column is found by its exact name,
or else by its name without regard to the case of ASCII letters. -/

namespace SqlBuilder

/-- The value that a JSON value stands for in a column: arrays and objects become their text. -/
def Value.ofJson : Json → Value
  | .null => .null
  | .bool b => .bool b
  | .number (.natural n) =>
    if n.toNat < Nat.pow 2 63 then .int (Int64.ofInt n.toNat) else .float n.toFloat
  | .number (.negative n) => .int n
  | .number (.fraction x) => .float x
  | .string s => .text s
  | .array items => .text (Json.array items).render
  | .object members => .text (Json.object members).render

/-- A row of a result. -/
structure Record where
  /-- The columns with their values; every name occurs once. -/
  columns : Entries String Value

namespace Record

/-- The record without columns. -/
def empty : Record := ⟨[]⟩

instance : Inhabited Record := ⟨empty⟩

/-- Give a column a value: in place if it is there, at the end otherwise. -/
def push (r : Record) (column : String) (v : Value) : Record := ⟨r.columns.put column v⟩

/-- The record that a sequence of columns with values leaves. -/
def ofPairs (pairs : List (String × Value)) : Record := ⟨Entries.ofPairs pairs⟩

/-- The record that the members of a JSON object stand for. -/
def ofJson (members : Entries String Json) : Record :=
  ofPairs (members.map fun m => (m.1, Value.ofJson m.2))

/-- The value of the first column whose name differs at most in case. -/
def getIgnoringCase (r : Record) (column : String) : Option Value :=
  (r.columns.find? fun c => Text.equalIgnoringCase c.1 column).map Prod.snd

/-- The value of a column: of exactly that name, or else without regard to case. -/
def get? (r : Record) (column : String) : Option Value :=
  match r.columns.find column with
  | some v => some v
  | none => r.getIgnoringCase column

/-- The value of the column at a position. -/
def getIndex? (r : Record) (index : Nat) : Option Value := (r.columns[index]?).map Prod.snd

/-- Whether the record has a column. -/
def contains (r : Record) (column : String) : Bool := (r.get? column).isSome

/-- The value of a column that must be there. -/
def value (r : Record) (column : String) : DbResult Value :=
  match r.get? column with
  | some v => .ok v
  | none => .error (.noColumn column)

/-- A column that must be there, read as a type. -/
def getAs (r : Record) (column : String) (type : ColumnType) : DbResult Value :=
  (r.value column).bind fun v => v.convert type

/-- The names of the columns. -/
def names (r : Record) : List String := r.columns.keys

/-- The number of columns. -/
def size (r : Record) : Nat := r.columns.length

end Record

end SqlBuilder
