import SqlBuilder.Json.Number

/-! # The meaning of JSON texts

The second step of reading: 16-bit units of strings are paired to characters, numbers get their
values, and brackets may nest no deeper than a given depth.  An object keeps the first place and the
last value of a repeated key. -/

namespace SqlBuilder

/-- How deep brackets may nest. -/
def nestingBound : Nat := 127

/-- The characters of a string; a unit outside the range of characters must be the first half of a
pair whose second half follows. -/
def stringMeaning : List StringPiece → Option (List Char)
  | [] => some []
  | .char c :: rest => (stringMeaning rest).map (c :: ·)
  | .unit high :: rest =>
    if high < 0xD800 ∨ 0xDFFF < high then (stringMeaning rest).map (Char.ofNat high :: ·)
    else
      match rest with
      | .unit low :: more =>
        if high ≤ 0xDBFF ∧ 0xDC00 ≤ low ∧ low ≤ 0xDFFF then
          let c := Char.ofNat (0x10000 + (high - 0xD800) * 0x400 + (low - 0xDC00))
          (stringMeaning more).map (c :: ·)
        else none
      | _ => none

/-- The text of a string. -/
def stringText (pieces : List StringPiece) : Option String :=
  (stringMeaning pieces).map String.ofList

mutual

/-- The meaning of a value whose brackets nest at most `depth` deep. -/
def JsonSource.meaning (depth : Nat) : JsonSource → Option Json
  | .null => some .null
  | .bool b => some (.bool b)
  | .number n => n.meaning.map .number
  | .string pieces => (stringText pieces).map .string
  | .array items =>
    if depth = 0 then none else (JsonSource.itemMeanings (depth - 1) items).map .array
  | .object members =>
    if depth = 0 then none
    else (JsonSource.memberMeanings (depth - 1) members).map fun ms => .object (Entries.ofPairs ms)
termination_by structural source => source

/-- The meanings of the items of an array. -/
def JsonSource.itemMeanings (depth : Nat) : List JsonSource → Option (List Json)
  | [] => some []
  | item :: rest => do
    let first ← item.meaning depth
    let others ← JsonSource.itemMeanings depth rest
    return first :: others
termination_by structural items => items

/-- The meanings of the members of an object, repeated keys included. -/
def JsonSource.memberMeanings (depth : Nat) :
    List (List StringPiece × JsonSource) → Option (List (String × Json))
  | [] => some []
  | member :: rest => do
    let first ← JsonSource.memberMeaning depth member
    let others ← JsonSource.memberMeanings depth rest
    return first :: others
termination_by structural members => members

/-- The key and the meaning of the value of a member. -/
def JsonSource.memberMeaning (depth : Nat) :
    List StringPiece × JsonSource → Option (String × Json)
  | (key, value) => do
    let name ← stringText key
    let v ← value.meaning depth
    return (name, v)
termination_by structural member => member

end

/-- The JSON value that a text writes. -/
def Json.ofText? (s : String) : Option Json :=
  (JsonSource.ofText? s).bind (JsonSource.meaning nestingBound)

/-- The members of the object that a text writes. -/
def Json.objectOfText? (s : String) : Option (Entries String Json) :=
  match Json.ofText? s with
  | some (.object members) => some members
  | _ => none

end SqlBuilder
