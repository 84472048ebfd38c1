import SqlBuilder.Decimal.Layout
import SqlBuilder.Decimal.Reading
import SqlBuilder.Error
import SqlBuilder.Text.Blank
import SqlBuilder.Timestamp.Reading
import SqlBuilder.Value

/-! # Reading values as other types

A value of a row is read as the type that the reader expects.  Each reading lists the kinds it
accepts; every other kind is refused with its own name and the name of the expected type. -/

namespace SqlBuilder

namespace Value

/-- Refuse to read a value as a type. -/
def mismatch {α : Type} (v : Value) (expected : String) : DbResult α :=
  refuse (.conversion v.kind expected)

/-- Read a value as an integer of 64 bits: an integer, a truth value, or a text that writes one. -/
def toInt64 (v : Value) : DbResult Int64 :=
  match v with
  | .int n => .ok n
  | .bool b => .ok (if b then 1 else 0)
  | .text s =>
    match Decimal.readInt64 (Text.trimChars s.toList) with
    | some n => .ok n
    | none => v.mismatch "i64"
  | _ => v.mismatch "i64"

/-- Read a value as an integer of 32 bits: an integer of 64 bits that is small enough. -/
def toInt32 (v : Value) : DbResult Int32 := do
  let n ← v.toInt64
  if Int32.minValue.toInt ≤ n.toInt ∧ n.toInt ≤ Int32.maxValue.toInt then .ok (Int32.ofInt n.toInt)
  else v.mismatch "i32"

/-- Read a value as a fractional number: a number, or a text that writes one. -/
def toFloat (v : Value) : DbResult Float :=
  match v with
  | .float x => .ok x
  | .int n => .ok n.toFloat
  | .text s =>
    match Decimal.readFloat (Text.trimChars s.toList) with
    | some x => .ok x
    | none => v.mismatch "f64"
  | _ => v.mismatch "f64"

/-- The lower-case words for true. -/
def trueWords : List String := ["true", "t", "1", "y", "yes"]

/-- The lower-case words for false. -/
def falseWords : List String := ["false", "f", "0", "n", "no"]

/-- Read a value as a truth value: an integer other than zero, or a word without regard to case. -/
def toBool (v : Value) : DbResult Bool :=
  match v with
  | .bool b => .ok b
  | .int n => .ok (n != 0)
  | .text s =>
    let word := Text.lower s
    if trueWords.contains word then .ok true
    else if falseWords.contains word then .ok false
    else v.mismatch "bool"
  | _ => v.mismatch "bool"

/-- Read a value as a text: a text or SQL text as it is, anything else but bytes in plain form. -/
def toText (v : Value) : DbResult String :=
  match v with
  | .text s | .raw s => .ok s
  | .int n => .ok (toString n.toInt)
  | .float x => .ok (Decimal.Layout.plain.render x)
  | .bool b => .ok (if b then "true" else "false")
  | .timestamp t => .ok (t.dateAndTime " ")
  | _ => v.mismatch "String"

/-- Read a value as bytes: bytes as they are, or the UTF-8 bytes of a text. -/
def toBytes (v : Value) : DbResult (List UInt8) :=
  match v with
  | .blob bytes => .ok bytes
  | .text s => .ok s.toUTF8.toList
  | _ => v.mismatch "Vec<u8>"

/-- Read a value as a timestamp: a timestamp, or a text that writes one with either separator. -/
def toTimestamp (v : Value) : DbResult Timestamp :=
  match v with
  | .timestamp t => .ok t
  | .text s =>
    match Timestamp.ofAnyText? s with
    | some t => .ok t
    | none => v.mismatch "NaiveDateTime"
  | _ => v.mismatch "NaiveDateTime"

end Value

/-! ## Column types -/

/-- A type as which a value can be read. -/
inductive ScalarType where
  /-- The value as it is. -/
  | value
  | int64
  | int32
  | float
  | bool
  | text
  | bytes
  | timestamp
deriving Repr, DecidableEq

/-- The type of a column to read: a scalar type, or one whose absent values stay absent. -/
structure ColumnType where
  /-- The type of the values that are present. -/
  scalar : ScalarType
  /-- Whether absent values are read as absent. -/
  isOptional : Bool
deriving Repr, DecidableEq

/-- A value read as a scalar type, as a value again. -/
def Value.readAs (v : Value) : ScalarType → DbResult Value
  | .value => .ok v
  | .int64 => v.toInt64.map .int
  | .int32 => v.toInt32.map fun n => .int n.toInt64
  | .float => v.toFloat.map .float
  | .bool => v.toBool.map .bool
  | .text => v.toText.map .text
  | .bytes => v.toBytes.map .blob
  | .timestamp => v.toTimestamp.map .timestamp

/-- A value read as a column type, as a value again. -/
def Value.convert (v : Value) (type : ColumnType) : DbResult Value :=
  if type.isOptional && v.isNull then .ok .null else v.readAs type.scalar

end SqlBuilder
