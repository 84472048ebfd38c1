import SqlBuilder.Decimal.Layout
import SqlBuilder.Reader
import SqlBuilder.Text.Quoted

/-! # Values and readers shown with their kinds

A value as messages show it, with the name of its kind, and a reader with its current row. -/

namespace SqlBuilder

/-- Texts in brackets with commas between them. -/
def bracketed (items : List String) : String := "[" ++ ", ".intercalate items ++ "]"

/-- A value with the name of its kind. -/
def Value.shown : Value → String
  | .null => "Null"
  | .bool b => "Bool(" ++ (if b then "true" else "false") ++ ")"
  | .int n => "Int(" ++ toString n.toInt ++ ")"
  | .float x => "Float(" ++ Decimal.Layout.literal.render x ++ ")"
  | .text s => "Text(" ++ Text.quoted s ++ ")"
  | .blob bytes => "Blob(" ++ bracketed (bytes.map fun b => toString b.toNat) ++ ")"
  | .timestamp t => "Timestamp(" ++ t.precise ++ ")"
  | .raw sql => "Raw(" ++ Text.quoted sql ++ ")"

/-- A record with its columns. -/
def Record.shown (r : Record) : String :=
  let columns := r.columns.map fun c => "(" ++ Text.quoted c.1 ++ ", " ++ c.2.shown ++ ")"
  "Record \x7b columns: " ++ bracketed columns ++ " \x7d"

/-- A reader with its state. -/
def Reader.shown (r : Reader) : String :=
  let disposed := if r.isDisposed then "true" else "false"
  let record := match r.record with
    | some row => "Some(" ++ row.shown ++ ")"
    | none => "None"
  "DataReader \x7b disposed: " ++ disposed ++ ", record: " ++ record ++ ", rows_read: "
    ++ toString r.rowsRead ++ " \x7d"

end SqlBuilder
