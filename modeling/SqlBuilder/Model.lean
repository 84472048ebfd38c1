import SqlBuilder.Connection
import SqlBuilder.Field.Validation

/-! # Models

A model is a table with fields, together with a way to turn its rows into objects.  The values of
an object are resolved before they are stored: every field gets its automatic value, or the one
supplied, or its default, or the absent one, and has to accept it. -/

namespace SqlBuilder

/-! ## Errors -/

/-- Why the values of an object are refused for a column. -/
inductive ValueFault where
  /-- The field does not accept the value. -/
  | field (fault : FieldFault)
  /-- Another row has the value. -/
  | taken
  /-- An object without primary key is to be updated. -/
  | updateWithoutKey
  /-- An object without primary key is to be deleted. -/
  | deleteWithoutKey

/-- The wording of a refusal. -/
def ValueFault.message : ValueFault → String
  | .field fault => fault.message
  | .taken => "a row with this value already exists"
  | .updateWithoutKey => "cannot update an object without primary key"
  | .deleteWithoutKey => "cannot delete an object without primary key"

/-- A failure of a model. -/
inductive ModelError where
  /-- A statement or its connection failed. -/
  | database (cause : DbError)
  /-- No row has the primary key. -/
  | notFound
  /-- Several rows have the primary key. -/
  | multipleObjects
  /-- The values of an object are refused. -/
  | validation (column : String) (fault : ValueFault)
  /-- A value is supplied for a column that is no field. -/
  | unknownColumn (column : String)
  /-- The table has no primary key. -/
  | noPrimaryKey (table : String)
  /-- The text is no pattern. -/
  | invalidPattern (text : String)

/-- The wording of a failure. -/
def ModelError.message : ModelError → String
  | .database cause => "database error: " ++ cause.message
  | .notFound => "object not found"
  | .multipleObjects => "multiple objects returned when one was expected"
  | .validation column fault => "validation error: " ++ column ++ ": " ++ fault.message
  | .unknownColumn column => "invalid field: " ++ column
  | .noPrimaryKey table => "invalid field: " ++ table ++ " has no primary key"
  | .invalidPattern text => "invalid field: invalid pattern '" ++ text ++ "'"

/-- A result that may fail with a `ModelError`. -/
abbrev ModelResult (α : Type) : Type := Except ModelError α

/-- A computation that talks to a connection and may fail with a `ModelError`. -/
abbrev ModelExchange (α : Type) : Type := Exchange ModelError α

/-- The kind of texts of limited length that match a pattern as a whole. -/
def FieldKind.patterned (maxLength : Nat) (pattern : String) : ModelResult FieldKind :=
  match WholePattern.ofText? pattern with
  | some p => .ok (.char maxLength (some p))
  | none => .error (.invalidPattern pattern)

/-! ## Models and their columns -/

/-- A table with its fields, and how its rows become objects. -/
structure Model (α : Type) where
  /-- The dotted name of the table. -/
  table : String
  /-- The fields in order. -/
  fields : List Field
  /-- The object of a row. -/
  hydrate : Record → DbResult α

/-- The values of an object, as the object gives them: columns with values. -/
abbrev Supplied : Type := List (String × Value)

/-- What the clock shows when the automatic value of a column is due. -/
abbrev Clock : Type := String → Timestamp

namespace Model

variable {α : Type}

/-- The columns of the fields in order. -/
def columns (m : Model α) : List String := m.fields.map Field.column

/-- The column of the first primary-key field. -/
def primaryKey (m : Model α) : ModelResult String :=
  match m.fields.find? fun f => f.options.primaryKey with
  | some f => .ok f.column
  | none => .error (.noPrimaryKey m.table)

/-- The value that an object supplies for the primary key; absent if it supplies none. -/
def keyValue (m : Model α) (supplied : Supplied) : ModelResult Value :=
  m.primaryKey.map fun column => (Entries.find column supplied).getD .null

/-! ## Resolving values -/

/-- The value of a field: automatic, supplied, default or absent, the first of these that there
is. -/
def chosenValue (occasion : Occasion) (clock : Clock) (supplied : Supplied) (f : Field) : Value :=
  let automatic := f.autoValue occasion (clock f.column)
  let given := Entries.find f.column supplied
  (automatic.or (given.or f.options.default)).getD .null

/-- An automatic value comes before all others. -/
theorem chosenValue_of_autoValue {occasion : Occasion} {clock : Clock} {f : Field} {v : Value}
    (h : f.autoValue occasion (clock f.column) = some v) (supplied : Supplied) :
    chosenValue occasion clock supplied f = v := by
  simp [chosenValue, h]

/-- A field with its value, if the field accepts it. -/
def resolveField (occasion : Occasion) (clock : Clock) (supplied : Supplied) (f : Field) :
    ModelResult (String × Value) :=
  let v := chosenValue occasion clock supplied f
  match f.validate v with
  | .ok _ => .ok (f.column, v)
  | .error fault => .error (.validation f.column (.field fault))

/-- The value of every field in order.  A supplied column without a field is refused before any
value is looked at. -/
def resolve (m : Model α) (occasion : Occasion) (clock : Clock) (supplied : Supplied) :
    ModelResult (List (String × Value)) :=
  match supplied.find? fun s => !m.columns.contains s.1 with
  | some s => .error (.unknownColumn s.1)
  | none => m.fields.mapM (resolveField occasion clock supplied)

/-- The first supplied column without a field is refused. -/
theorem resolve_of_find {m : Model α} {supplied : Supplied} {s : String × Value}
    (h : supplied.find? (fun s => !m.columns.contains s.1) = some s) (occasion : Occasion)
    (clock : Clock) : m.resolve occasion clock supplied = .error (.unknownColumn s.1) := by
  rw [resolve, h]

/-- Accept the values of an object, or say why not.  No automatic value is due, so that the clock is
not read. -/
def validate (m : Model α) (clock : Clock) (supplied : Supplied) : ModelResult Unit :=
  (m.resolve .validation clock supplied).map fun _ => ()

end Model

end SqlBuilder
