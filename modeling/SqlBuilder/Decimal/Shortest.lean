/-! # Shortest decimals

The shortest decimal of a binary number has the fewest digits among those that read back as it,
and is the nearest of these.  A positive finite number is `significand · 2 ^ exponent`; the reals
that read back as it reach half way to its two neighbours, the ends included exactly when the
significand is even.  For one, two, … seventeen digits the two neighbours of the number on that
decimal grid are tested in exact arithmetic; the first grid with a hit wins, and of two hits the
nearer. -/

namespace SqlBuilder.Decimal

/-- A positive finite binary number, `significand · 2 ^ exponent`. -/
structure Binary where
  /-- The whole number that is scaled. -/
  significand : Nat
  /-- The power of two. -/
  exponent : Int
  /-- Whether the next smaller number is only half as far as the next larger one. -/
  narrowBelow : Bool
deriving Repr, DecidableEq

/-- The absolute value of a finite 64-bit number, from its bits: 52 bits of fraction below 11 bits
of exponent. -/
def Binary.ofBits (bits : UInt64) : Binary :=
  let fraction : Nat := bits.toNat % Nat.pow 2 52
  let power : Nat := bits.toNat / Nat.pow 2 52 % Nat.pow 2 11
  if power = 0 then ⟨fraction, -1074, false⟩
  else ⟨fraction + Nat.pow 2 52, (power : Int) - 1075, fraction = 0 && decide (1 < power)⟩

/-- The numerator of a power whose exponent may be negative. -/
def powerUp (base : Nat) (e : Int) : Nat := Nat.pow base e.toNat

/-- The denominator of a power whose exponent may be negative. -/
def powerDown (base : Nat) (e : Int) : Nat := Nat.pow base (-e).toNat

/-- Quarters of the number: `4 · significand`, to be scaled by `2 ^ (exponent - 2)`. -/
def Binary.quarters (b : Binary) : Nat := 4 * b.significand

/-- The lower end of the reals that read back, in quarters. -/
def Binary.lowest (b : Binary) : Nat := b.quarters - (if b.narrowBelow then 1 else 2)

/-- The upper end of the reals that read back, in quarters. -/
def Binary.highest (b : Binary) : Nat := b.quarters + 2

/-- `c · 10 ^ k` on the scale where `q` quarters are `scaled b k q`. -/
def Binary.gridPoint (b : Binary) (k : Int) (c : Nat) : Nat :=
  c * powerUp 10 k * powerDown 2 (b.exponent - 2)

/-- `q` quarters on the scale where `c · 10 ^ k` is `gridPoint b k c`. -/
def Binary.scaled (b : Binary) (k : Int) (q : Nat) : Nat :=
  q * powerUp 2 (b.exponent - 2) * powerDown 10 k

/-- Whether `c · 10 ^ k` reads back as the number. -/
def Binary.readsBack (b : Binary) (k : Int) (c : Nat) : Bool :=
  let point := b.gridPoint k c
  let low := b.scaled k b.lowest
  let high := b.scaled k b.highest
  if b.significand % 2 = 0 then decide (low ≤ point) && decide (point ≤ high)
  else decide (low < point) && decide (point < high)

/-- The power of ten of the leading digit of the number. -/
def Binary.leadingPower (b : Binary) : Int :=
  let wholePart := b.significand * powerUp 2 b.exponent * Nat.pow 10 340 / powerDown 2 b.exponent
  ((Nat.toDigits 10 wholePart).length : Int) - 341

/-- The decimal `c · 10 ^ k` that reads back on the grid of `10 ^ k`, if there is one: the nearer
of the number's two neighbours, and the even one of two equally near. -/
def Binary.onGrid (b : Binary) (k : Int) : Option Nat :=
  let unit := b.gridPoint k 1
  let value := b.scaled k b.quarters
  let below := value / unit
  let above := below + 1
  match b.readsBack k below, b.readsBack k above with
  | true, true =>
    let gapBelow := value - below * unit
    let gapAbove := above * unit - value
    if gapBelow < gapAbove then some below
    else if gapAbove < gapBelow then some above
    else if below % 2 = 0 then some below else some above
  | true, false => some below
  | false, true => some above
  | false, false => none

/-- Search the grids from `10 ^ k` downwards for at most `count` grids; the last one is taken as it
is. -/
def Binary.search (b : Binary) (k : Int) : Nat → Nat × Int
  | 0 => (b.scaled k b.quarters / b.gridPoint k 1, k)
  | count + 1 => match b.onGrid k with
    | some c => (c, k)
    | none => b.search (k - 1) count

/-- A decimal in scientific form: the digits `d₁ d₂ …` stand for `d₁.d₂… · 10 ^ power`. -/
structure Scientific where
  /-- The digits, without zeros at the end. -/
  digits : List Char
  /-- The power of ten of the first digit. -/
  power : Int
deriving Repr, DecidableEq

/-- The shortest decimal of a positive finite number. -/
def Binary.shortest (b : Binary) : Scientific :=
  let (c, k) := b.search b.leadingPower 17
  let digits := Nat.toDigits 10 c
  ⟨(digits.reverse.dropWhile (· == '0')).reverse, k + (digits.length : Int) - 1⟩

end SqlBuilder.Decimal
