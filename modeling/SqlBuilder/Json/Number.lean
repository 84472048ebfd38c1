import SqlBuilder.Decimal.Reading
import SqlBuilder.Json
import SqlBuilder.Json.Source

/-! # The meaning of JSON numbers

A whole number that fits in 64 bits is exact.  Any other number keeps as many leading digits as fit
in 64 bits and is scaled by one power of ten in binary arithmetic; it is refused if it becomes
infinite. -/

namespace SqlBuilder

/-- The largest number of leading digits that 64 bits can hold, as a bound on their value. -/
def significandBound : Nat := UInt64.size - 1

/-- Leading digits of a number and the power of ten that scales them. -/
structure Significand where
  /-- The digits kept so far. -/
  value : Nat
  /-- The power of ten. -/
  exponent : Int
deriving Repr, DecidableEq

namespace Significand

/-- Add the digits before the point: those that no longer fit count as powers of ten. -/
def addWhole (s : Significand) : List Char → Significand
  | [] => s
  | c :: rest =>
    let next := 10 * s.value + Decimal.digitValue c
    if next ≤ significandBound then addWhole ⟨next, s.exponent⟩ rest
    else ⟨s.value, s.exponent + (c :: rest).length⟩

/-- Add the digits behind the point: those that no longer fit are ignored. -/
def addFraction (s : Significand) : List Char → Significand
  | [] => s
  | c :: rest =>
    let next := 10 * s.value + Decimal.digitValue c
    if next ≤ significandBound then addFraction ⟨next, s.exponent - 1⟩ rest
    else s

end Significand

/-- Ten to a power that binary numbers of 64 bits can hold. -/
def tenToThe (n : Nat) : Float := Float.ofScientific 1 false n

/-- The largest power of ten that is applied at once. -/
def largestPower : Nat := 308

/-- A number times a power of ten; `none` if it becomes infinite. -/
def scaleByTen (x : Float) (exponent : Int) : Option Float :=
  if exponent.natAbs ≤ largestPower then
    if 0 ≤ exponent then
      let scaled := x * tenToThe exponent.natAbs
      if scaled.isInf then none else some scaled
    else some (x / tenToThe exponent.natAbs)
  else if x == 0.0 then some x
  else if _h : 0 ≤ exponent then none
  else scaleByTen (x / tenToThe largestPower) (exponent + largestPower)
termination_by exponent.natAbs
decreasing_by
  simp only [largestPower] at *
  omega

/-- The largest exponent that is read; beyond it a number is zero or refused. -/
def exponentBound : Nat := Nat.pow 2 31 - 1

/-- A number with a sign. -/
def signed (negative : Bool) (x : Float) : Float := if negative then -x else x

namespace NumberSource

/-- The leading digits of the number, before its exponent is applied. -/
def significand (n : NumberSource) : Significand :=
  (Significand.addWhole ⟨0, 0⟩ n.whole).addFraction n.fraction

/-- The number as a fraction. -/
def toFraction (n : NumberSource) : Option Float :=
  let s := n.significand
  let size := Float.ofNat s.value
  let scaled := match n.power with
    | none => scaleByTen size s.exponent
    | some (negativePower, digits) =>
      let power := Nat.ofDigitChars 10 digits 0
      if exponentBound < power then (if s.value = 0 ∨ negativePower then some 0.0 else none)
      else scaleByTen size (if negativePower then s.exponent - power else s.exponent + power)
  scaled.map (signed n.negative)

/-- The meaning of a number. -/
def meaning (n : NumberSource) : Option JsonNumber :=
  let whole := Nat.ofDigitChars 10 n.whole 0
  if n.isWhole ∧ whole ≤ significandBound then
    if !n.negative then some (.natural (UInt64.ofNat whole))
    else if 0 < whole ∧ whole ≤ Nat.pow 2 63 then
      some (.negative (Int64.ofInt (-(whole : Int))))
    else some (.fraction (-(Float.ofNat whole)))
  else n.toFraction.map .fraction

end NumberSource

end SqlBuilder
