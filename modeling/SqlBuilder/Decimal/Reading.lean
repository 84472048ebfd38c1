/-! # Reading decimal numbers

Whole numbers are an optional sign and ASCII digits, and nothing else.  Fractional numbers are an
optional sign and either a word (`inf`, `infinity`, `nan` in any case) or digits with an optional
point and an optional power of ten.  A decimal stands for the nearest binary number. -/

namespace SqlBuilder.Decimal

/-- A leading sign (`true` for minus) and what follows it. -/
def takeSign : List Char → Bool × List Char
  | '+' :: rest => (false, rest)
  | '-' :: rest => (true, rest)
  | cs => (false, cs)

/-- The value of an ASCII digit. -/
def digitValue (c : Char) : Nat := c.toNat - '0'.toNat

/-- The number that a nonempty run of ASCII digits writes, if the text is one. -/
def readDigits (cs : List Char) : Option Nat :=
  if cs.isEmpty || !cs.all Char.isDigit then none else some (Nat.ofDigitChars 10 cs 0)

/-- The integer that a text writes: an optional sign, then digits. -/
def readInt (cs : List Char) : Option Int :=
  let (negative, digits) := takeSign cs
  (readDigits digits).map fun n => if negative then -(n : Int) else (n : Int)

/-- The integer that a text writes, if it fits in 64 bits. -/
def readInt64 (cs : List Char) : Option Int64 :=
  (readInt cs).bind fun n =>
    if Int64.minValue.toInt ≤ n ∧ n ≤ Int64.maxValue.toInt then some (Int64.ofInt n) else none

/-! ## Fractional numbers -/

/-- The unsigned decimal `coefficient · 10 ^ exponent`. -/
structure Numeral where
  /-- The digits, read as a whole number. -/
  coefficient : Nat
  /-- The power of ten that scales them. -/
  exponent : Int
deriving Repr, DecidableEq

/-- The numeral that a text writes: digits with an optional point among them, at least one digit,
and an optional power of ten. -/
def readNumeral (cs : List Char) : Option Numeral :=
  let whole := cs.takeWhile Char.isDigit
  let afterWhole := cs.dropWhile Char.isDigit
  let (fraction, tail) := match afterWhole with
    | '.' :: rest => (rest.takeWhile Char.isDigit, rest.dropWhile Char.isDigit)
    | _ => ([], afterWhole)
  if whole.isEmpty && fraction.isEmpty then none
  else
    let coefficient := Nat.ofDigitChars 10 (whole ++ fraction) 0
    let places : Int := fraction.length
    match tail with
    | [] => some ⟨coefficient, -places⟩
    | c :: power =>
      if c = 'e' ∨ c = 'E' then (readInt power).map fun n => ⟨coefficient, n - places⟩
      else none

/-- One more than the power of ten of the leading digit. -/
def Numeral.magnitude (n : Numeral) : Int :=
  n.exponent + (Nat.toDigits 10 n.coefficient).length

/-- Beyond this many decimal places on either side every binary number of 64 bits is infinite or
zero. -/
def magnitudeBound : Int := 400

/-- Positive infinity. -/
def infinity : Float := Float.ofBits 0x7FF0000000000000

/-- The value that is not a number. -/
def notANumber : Float := Float.ofBits 0x7FF8000000000000

/-- The nearest binary number of 64 bits: infinity beyond the range, zero below it. -/
def Numeral.toFloat (n : Numeral) : Float :=
  if n.coefficient = 0 ∨ n.magnitude < -magnitudeBound then 0.0
  else if magnitudeBound < n.magnitude then infinity
  else Float.ofScientific n.coefficient (decide (n.exponent < 0)) n.exponent.natAbs

/-- The nearest binary number of 32 bits: infinity beyond the range, zero below it. -/
def Numeral.toFloat32 (n : Numeral) : Float32 :=
  if n.coefficient = 0 ∨ n.magnitude < -magnitudeBound then 0.0
  else if magnitudeBound < n.magnitude then infinity.toFloat32
  else Float32.ofScientific n.coefficient (decide (n.exponent < 0)) n.exponent.natAbs

/-- An unsigned fractional number as a text writes it. -/
inductive Magnitude where
  /-- Larger than every number. -/
  | infinite
  /-- Not a number. -/
  | undefined
  /-- A decimal. -/
  | numeral (n : Numeral)

/-- The unsigned number that a text writes, in digits or as a word. -/
def readMagnitude (cs : List Char) : Option Magnitude :=
  let word := String.ofList (cs.map Char.toLower)
  if word = "inf" ∨ word = "infinity" then some .infinite
  else if word = "nan" then some .undefined
  else (readNumeral cs).map .numeral

/-- The number of 64 bits that a text writes. -/
def readFloat (cs : List Char) : Option Float :=
  let (negative, rest) := takeSign cs
  (readMagnitude rest).map fun m =>
    let size := match m with
      | .infinite => infinity
      | .undefined => notANumber
      | .numeral n => n.toFloat
    if negative then -size else size

/-- The number of 32 bits that a text writes. -/
def readFloat32 (cs : List Char) : Option Float32 :=
  let (negative, rest) := takeSign cs
  (readMagnitude rest).map fun m =>
    let size := match m with
      | .infinite => infinity.toFloat32
      | .undefined => notANumber.toFloat32
      | .numeral n => n.toFloat32
    if negative then -size else size

end SqlBuilder.Decimal
