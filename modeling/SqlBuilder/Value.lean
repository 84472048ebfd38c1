import SqlBuilder.Timestamp

/-! # Values

What a statement can compare with or store in a column, and what a row can hold. -/

namespace SqlBuilder

/-- A value of a column. -/
inductive Value where
  /-- The absent value. -/
  | null
  /-- A truth value. -/
  | bool (b : Bool)
  /-- An integer of 64 bits. -/
  | int (n : Int64)
  /-- A fractional number of 64 bits. -/
  | float (x : Float)
  /-- A text. -/
  | text (s : String)
  /-- A sequence of bytes. -/
  | blob (bytes : List UInt8)
  /-- A date and time. -/
  | timestamp (t : Timestamp)
  /-- SQL text that is put into a statement as it is. -/
  | raw (sql : String)
deriving BEq

namespace Value

/-- Whether a value is the absent one. -/
def isNull : Value → Bool
  | .null => true
  | _ => false

@[simp] theorem isNull_null : isNull .null = true := rfl

/-- The word for the kind of a value. -/
def kind : Value → String
  | .null => "null"
  | .bool _ => "bool"
  | .int _ => "integer"
  | .float _ => "float"
  | .text _ => "text"
  | .blob _ => "blob"
  | .timestamp _ => "timestamp"
  | .raw _ => "expression"

end Value

end SqlBuilder
