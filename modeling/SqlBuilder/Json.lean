import SqlBuilder.Decimal.Layout
import SqlBuilder.Entries

/-! # JSON values

A JSON value as the library keeps it, with the members of an object in the order of their first
occurrence, and its compact text.  Whole numbers from `-2 ^ 63` up to below `2 ^ 64` are exact;
every other number is a fraction of 64 bits. -/

namespace SqlBuilder

/-- A number of a JSON text. -/
inductive JsonNumber where
  /-- A whole number below `2 ^ 64`. -/
  | natural (n : UInt64)
  /-- A negative whole number from `-2 ^ 63` on. -/
  | negative (n : Int64)
  /-- Any other number. -/
  | fraction (x : Float)

/-- A JSON value. -/
inductive Json where
  | null
  | bool (b : Bool)
  | number (n : JsonNumber)
  | string (s : String)
  | array (items : List Json)
  /-- An object; every key occurs once. -/
  | object (members : List (String × Json))

/-- The text of a number. -/
def JsonNumber.render : JsonNumber → String
  | .natural n => toString n.toNat
  | .negative n => toString n.toInt
  | .fraction x => if x.isFinite then Decimal.Layout.json.render x else "null"

/-- A control character as four hexadecimal digits of a `\u` escape. -/
def controlEscape (c : Char) : List Char :=
  ['\\', 'u', '0', '0', (c.toNat / 16).digitChar, (c.toNat % 16).digitChar]

/-- A character inside a JSON string. -/
def jsonEscape (c : Char) : List Char :=
  if c = '"' then ['\\', '"']
  else if c = '\\' then ['\\', '\\']
  else if c = '\x08' then ['\\', 'b']
  else if c = '\x0c' then ['\\', 'f']
  else if c = '\n' then ['\\', 'n']
  else if c = '\r' then ['\\', 'r']
  else if c = '\t' then ['\\', 't']
  else if c.toNat < 32 then controlEscape c
  else [c]

/-- A JSON string. -/
def jsonString (s : String) : String :=
  String.ofList ('"' :: (s.toList.flatMap jsonEscape ++ ['"']))

/-- Texts in brackets with commas between them. -/
def jsonArray (items : List String) : String := "[" ++ ",".intercalate items ++ "]"

/-- Keys with the texts of their values in braces, with commas between them. -/
def jsonObject (members : List (String × String)) : String :=
  "\x7b" ++ ",".intercalate (members.map fun m => jsonString m.1 ++ ":" ++ m.2) ++ "\x7d"

mutual

/-- The compact text of a value. -/
def Json.render : Json → String
  | .null => "null"
  | .bool b => if b then "true" else "false"
  | .number n => n.render
  | .string s => jsonString s
  | .array items => jsonArray (Json.renderItems items)
  | .object members => jsonObject (Json.renderMembers members)
termination_by structural value => value

/-- The texts of the items of an array. -/
def Json.renderItems : List Json → List String
  | [] => []
  | item :: rest => item.render :: Json.renderItems rest
termination_by structural items => items

/-- The keys of an object with the texts of their values. -/
def Json.renderMembers : List (String × Json) → List (String × String)
  | [] => []
  | member :: rest => Json.renderMember member :: Json.renderMembers rest
termination_by structural members => members

/-- A key with the text of its value. -/
def Json.renderMember : String × Json → String × String
  | (key, value) => (key, value.render)
termination_by structural member => member

end

end SqlBuilder
