import SqlBuilder.Decimal.Layout
import SqlBuilder.Dialect
import SqlBuilder.Text.Pieces
import SqlBuilder.Value

/-! # Literals

How each dialect writes a value into a statement.  Texts stand in single quotes; inside, the quote
is written twice, or, in the dialects with backslash escapes, six special characters are escaped.
Bytes are upper-case hexadecimal digits, timestamps are whole seconds. -/

namespace SqlBuilder

/-- The single quote that surrounds a text. -/
def singleQuote : Char := '\x27'

/-- The ways in which a text literal protects its special characters. -/
inductive TextEscape where
  /-- A single quote is written twice. -/
  | doubling
  /-- Special characters follow a backslash. -/
  | backslash
deriving Repr, DecidableEq

/-- One character inside a text literal with backslash escapes. -/
def backslashEscape (c : Char) : List Char :=
  if c = '\\' then ['\\', '\\']
  else if c = singleQuote then ['\\', singleQuote]
  else if c = '\x00' then ['\\', '0']
  else if c = '\n' then ['\\', 'n']
  else if c = '\r' then ['\\', 'r']
  else if c = '\x1a' then ['\\', 'Z']
  else [c]

/-- The characters of a text inside its quotes. -/
def TextEscape.encode : TextEscape → List Char → List Char
  | .doubling, cs => Text.doubled singleQuote cs
  | .backslash, cs => cs.flatMap backslashEscape

/-- Two upper-case hexadecimal digits for a byte. -/
def hexByte (b : UInt8) : List Char :=
  [(b.toNat / 16).digitChar.toUpper, (b.toNat % 16).digitChar.toUpper]

/-- Bytes as upper-case hexadecimal digits. -/
def hexText (bytes : List UInt8) : String := String.ofList (bytes.flatMap hexByte)

namespace Dialect

/-- The way in which the dialect protects special characters in a text. -/
def textEscape : Dialect → TextEscape
  | .mariaDb | .mySql => .backslash
  | _ => .doubling

/-- The characters of a text literal. -/
def textChars (d : Dialect) (cs : List Char) : List Char :=
  singleQuote :: (d.textEscape.encode cs ++ [singleQuote])

/-- A text literal. -/
def textLiteral (d : Dialect) (s : String) : String := String.ofList (d.textChars s.toList)

/-- What stands before and behind the hexadecimal digits of a byte literal. -/
def blobMarks : Dialect → String × String
  | .postgreSql => ("'\\x", "'::bytea")
  | .msSql => ("0x", "")
  | .oracle => ("HEXTORAW('", "')")
  | .db2 => ("BX'", "'")
  | _ => ("X'", "'")

/-- A byte literal. -/
def blobLiteral (d : Dialect) (bytes : List UInt8) : String :=
  d.blobMarks.1 ++ hexText bytes ++ d.blobMarks.2

/-- A timestamp literal. -/
def timestampLiteral (d : Dialect) (t : Timestamp) : String :=
  match d with
  | .mariaDb | .mySql | .sqlite => d.textLiteral (t.dateAndTime " ")
  | .msSql => "'" ++ t.dateAndTime "T" ++ "'"
  | .oracle => "TO_TIMESTAMP('" ++ t.dateAndTime " " ++ "', 'YYYY-MM-DD HH24:MI:SS')"
  | _ => "TIMESTAMP '" ++ t.dateAndTime " " ++ "'"

/-- The literal of a fractional number; what is not finite has none and becomes `NULL`. -/
def floatLiteral (x : Float) : String :=
  if x.isFinite then Decimal.Layout.literal.render x else "NULL"

/-- A value as the dialect writes it into a statement. -/
def literal (d : Dialect) : Value → String
  | .null => "NULL"
  | .bool b => d.truthLiteral b
  | .int n => toString n.toInt
  | .float x => floatLiteral x
  | .text s => d.textLiteral s
  | .blob bytes => d.blobLiteral bytes
  | .timestamp t => d.timestampLiteral t
  | .raw sql => sql

@[simp] theorem literal_null (d : Dialect) : d.literal .null = "NULL" := rfl

@[simp] theorem literal_raw (d : Dialect) (sql : String) : d.literal (.raw sql) = sql := rfl

end Dialect

end SqlBuilder
