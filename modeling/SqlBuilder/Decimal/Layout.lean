import SqlBuilder.Decimal.Shortest

/-! # Layouts of fractional numbers

A layout says how the shortest digits of a number are set: for which powers of ten the number is
written out in positional notation, whether a whole number shows `.0`, and how an exponent looks.
Three layouts are in use: in statements, as plain text, and in JSON. -/

namespace SqlBuilder.Decimal

/-- How the digits of a number are set. -/
structure Layout where
  /-- The powers of ten of the leading digit that are written positionally; `none` means all. -/
  positional : Option (Int × Int)
  /-- Whether a whole number shows `.0`. -/
  pointZero : Bool
  /-- Whether a positive exponent shows its sign. -/
  signedExponent : Bool
deriving Repr, DecidableEq

/-- Literals in statements: positional from `0.0001` up to below `10 ^ 16`, `1.0`, `1e16`. -/
def Layout.literal : Layout := ⟨some (-4, 15), true, false⟩

/-- Plain text: always positional, and a whole number has no point. -/
def Layout.plain : Layout := ⟨none, false, false⟩

/-- JSON: positional from `0.00001` up to below `10 ^ 16`, `1.0`, `1e+16`. -/
def Layout.json : Layout := ⟨some (-5, 15), true, true⟩

/-- Digits in positional notation. -/
def positionalText (layout : Layout) (s : Scientific) : String :=
  let count : Int := s.digits.length
  if s.power < 0 then
    "0." ++ String.ofList (List.replicate (-s.power - 1).toNat '0' ++ s.digits)
  else if count ≤ s.power + 1 then
    String.ofList (s.digits ++ List.replicate (s.power + 1 - count).toNat '0')
      ++ (if layout.pointZero then ".0" else "")
  else
    let whole := (s.power + 1).toNat
    String.ofList (s.digits.take whole) ++ "." ++ String.ofList (s.digits.drop whole)

/-- Digits with one before the point, and the power of ten as an exponent. -/
def exponentText (layout : Layout) (s : Scientific) : String :=
  let mantissa := match s.digits with
    | [] => "0"
    | [d] => String.singleton d
    | d :: rest => String.singleton d ++ "." ++ String.ofList rest
  let sign := if s.power < 0 then "-" else if layout.signedExponent then "+" else ""
  mantissa ++ "e" ++ sign ++ toString s.power.natAbs

/-- A positive finite number, laid out. -/
def Layout.magnitude (layout : Layout) (s : Scientific) : String :=
  match layout.positional with
  | none => positionalText layout s
  | some (least, greatest) =>
    if least ≤ s.power ∧ s.power ≤ greatest then positionalText layout s
    else exponentText layout s

/-- Whether the bits of a number carry a minus sign. -/
def isNegative (x : Float) : Bool := decide (Nat.pow 2 63 ≤ x.toBits.toNat)

/-- The text of a number: its sign, then its shortest digits in the layout. -/
def Layout.render (layout : Layout) (x : Float) : String :=
  if x.isNaN then "NaN"
  else
    let sign := if isNegative x then "-" else ""
    let size := x.abs
    if size.isInf then sign ++ "inf"
    else if size == 0.0 then sign ++ (if layout.pointZero then "0.0" else "0")
    else sign ++ layout.magnitude (Binary.ofBits size.toBits).shortest

end SqlBuilder.Decimal
