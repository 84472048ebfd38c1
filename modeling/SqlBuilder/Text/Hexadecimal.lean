/-! # Hexadecimal digits

A number is written in base sixteen with the digits `0` to `9` and the letters `a` to `f` in either
case. -/

namespace SqlBuilder.Text

/-- Whether a character is a hexadecimal digit. -/
def isHexDigit (c : Char) : Bool :=
  c.isDigit || (decide ('a' ≤ c) && decide (c ≤ 'f')) || (decide ('A' ≤ c) && decide (c ≤ 'F'))

/-- The value of a hexadecimal digit. -/
def hexValue (c : Char) : Nat :=
  if c.isDigit then c.toNat - '0'.toNat else c.toUpper.toNat - 'A'.toNat + 10

/-- The number that hexadecimal digits write. -/
def ofHexDigits (digits : List Char) : Nat := digits.foldl (fun n c => 16 * n + hexValue c) 0

@[simp] theorem ofHexDigits_nil : ofHexDigits [] = 0 := rfl

end SqlBuilder.Text
