import SqlBuilder.Pattern.Whole
import SqlBuilder.Value.Shown

/-! # Fields

A field says what a column of a model may hold: its kind, and options that all kinds share.  A value
that a field does not accept has a `FieldFault`, whose wording is `FieldFault.message`. -/

namespace SqlBuilder

/-! ## Kinds -/

/-- The least and the greatest value that is allowed. -/
structure Bounds (α : Type) where
  /-- The least value, if there is one. -/
  least : Option α := none
  /-- The greatest value, if there is one. -/
  greatest : Option α := none

/-- What sort of values a field holds. -/
inductive FieldKind where
  /-- A text of limited length that may have to match a pattern. -/
  | char (maxLength : Nat) (pattern : Option WholePattern)
  /-- A text. -/
  | text
  /-- An email address of limited length. -/
  | email (maxLength : Nat)
  /-- An integer of 32 bits. -/
  | integer (bounds : Bounds Int32)
  /-- An integer of 64 bits. -/
  | bigInteger (bounds : Bounds Int64)
  /-- A finite fractional number. -/
  | float (bounds : Bounds Float)
  /-- A truth value. -/
  | boolean
  /-- A date and time, which may be set automatically on every change or on insertion. -/
  | dateTime (autoNow autoNowAdd : Bool)

/-- The greatest length of an email address, unless another is given. -/
def defaultEmailLength : Nat := 254

/-! ## Options -/

/-- What fields of all kinds can have. -/
structure FieldOptions where
  /-- Whether the absent value is accepted. -/
  null : Bool := false
  /-- Whether the empty text is accepted. -/
  blank : Bool := false
  /-- The value of a field that is not supplied. -/
  default : Option Value := none
  /-- Whether no two rows may have the same value. -/
  unique : Bool := false
  /-- Whether the field identifies the row. -/
  primaryKey : Bool := false
  /-- The only values that are accepted, if there are any. -/
  choices : List Value := []

/-- An option as it is given. -/
inductive FieldOption where
  | null (b : Bool)
  | blank (b : Bool)
  | default (v : Value)
  | unique (b : Bool)
  | primaryKey (b : Bool)
  | choices (values : List Value)

namespace FieldOptions

/-- The options after one more is given.  A primary key accepts the absent value, which the database
is going to fill in. -/
def give (o : FieldOptions) : FieldOption → FieldOptions
  | .null b => { o with null := b }
  | .blank b => { o with blank := b }
  | .default v => { o with default := some v }
  | .unique b => { o with unique := b }
  | .primaryKey b => { o with primaryKey := b, null := b || o.null }
  | .choices values => { o with choices := values }

/-- A primary key accepts the absent value. -/
@[simp] theorem null_give_primaryKey (o : FieldOptions) :
    (o.give (.primaryKey true)).null = true := rfl

/-- The options that were given one after the other. -/
def ofList (given : List FieldOption) : FieldOptions := given.foldl give {}

end FieldOptions

/-! ## Fields and faults -/

/-- A column of a model. -/
structure Field where
  /-- The name of the column. -/
  column : String
  /-- What sort of values it holds. -/
  kind : FieldKind
  /-- The options that all kinds share. -/
  options : FieldOptions

/-- Why a field does not accept a value. -/
inductive FieldFault where
  /-- The value is absent. -/
  | absent
  /-- The text is empty. -/
  | blank
  /-- The value is not among the choices. -/
  | notAChoice (v : Value)
  /-- A value of the kind `found` where `expected` belongs. -/
  | wrongKind (expected found : String)
  /-- The text has more characters than the limit. -/
  | tooLong (limit : Nat)
  /-- The text does not match the pattern. -/
  | unmatched (p : WholePattern)
  /-- The text is no email address. -/
  | malformedEmail
  /-- The text writes no integer of 64 bits. -/
  | malformedInteger
  /-- The integer needs more than 32 bits. -/
  | outsideInt32
  /-- The text writes no fractional number. -/
  | malformedFloat
  /-- The number is infinite or not a number. -/
  | notFinite
  /-- The number is less than the limit. -/
  | below (limit : String)
  /-- The number is greater than the limit. -/
  | above (limit : String)
  /-- The value says neither true nor false. -/
  | notTruthValue
  /-- The text writes no date and time. -/
  | malformedDateTime

/-- The wording of a fault. -/
def FieldFault.message : FieldFault → String
  | .absent => "This field cannot be null"
  | .blank => "This field cannot be blank"
  | .notAChoice v => "Value " ++ v.shown ++ " is not a valid choice"
  | .wrongKind expected found => "Expected " ++ expected ++ ", got " ++ found
  | .tooLong limit => "Value exceeds maximum length of " ++ toString limit ++ " characters"
  | .unmatched p => "Value does not match pattern " ++ p.source
  | .malformedEmail => "Invalid email address"
  | .malformedInteger => "Invalid integer value"
  | .outsideInt32 => "Value out of range for a 32-bit integer"
  | .malformedFloat => "Invalid float value"
  | .notFinite => "Value must be finite"
  | .below limit => "Value must be at least " ++ limit
  | .above limit => "Value must be at most " ++ limit
  | .notTruthValue => "Value must be a boolean"
  | .malformedDateTime => "Date and time must be in %Y-%m-%d %H:%M:%S format"

end SqlBuilder
