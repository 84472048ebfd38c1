import SqlBuilder.Text.Blank
import SqlBuilder.Timestamp

/-! # Reading timestamps

A date is year, month and day joined by hyphens, a time hour, minute and second joined by colons.
Blanks may precede every number, and a number may have fewer digits than its full width; a year
with a sign may have more.  Between date and time stands either any run of blanks, even an empty
one, or the letter `T`; only after a `T` may the second carry a fraction.  Nothing may follow. -/

namespace SqlBuilder

/-- What stands between the date and the time. -/
inductive Separator where
  /-- Any run of blanks, and no fraction of the second. -/
  | blanks
  /-- The letter `T`, and an optional fraction of the second. -/
  | letterT
deriving Repr, DecidableEq

namespace Timestamp

/-- The number of at most `width` digits at the start of a text, and what follows it. -/
def takeNumber (width : Nat) (cs : List Char) : Option (Nat × List Char) :=
  let digits := (cs.take width).takeWhile Char.isDigit
  if digits.isEmpty then none
  else some (Nat.ofDigitChars 10 digits 0, cs.drop digits.length)

/-- A number of at most two digits after optional blanks. -/
def takeField (cs : List Char) : Option (Nat × List Char) := takeNumber 2 (Text.trimStart cs)

/-- A year after optional blanks: at most four digits, or a sign and any number of digits. -/
def takeYear (cs : List Char) : Option (Int × List Char) :=
  match Text.trimStart cs with
  | '-' :: rest => (takeNumber rest.length rest).map fun r => (-(r.1 : Int), r.2)
  | '+' :: rest => (takeNumber rest.length rest).map fun r => ((r.1 : Int), r.2)
  | rest => (takeNumber 4 rest).map fun r => ((r.1 : Int), r.2)

/-- What follows a required character. -/
def takeChar (c : Char) : List Char → Option (List Char)
  | [] => none
  | d :: rest => if c = d then some rest else none

/-- What follows the separator. -/
def takeSeparator : Separator → List Char → Option (List Char)
  | .blanks, cs => some (Text.trimStart cs)
  | .letterT, cs => takeChar 'T' cs

/-- The nanoseconds of an optional fraction: nine digits count, more are ignored. -/
def takeFraction : Separator → List Char → Option (Nat × List Char)
  | .letterT, '.' :: rest =>
    let digits := (rest.take 9).takeWhile Char.isDigit
    if digits.isEmpty then none
    else some (Nat.ofDigitChars 10 digits 0 * Nat.pow 10 (9 - digits.length),
      (rest.drop digits.length).dropWhile Char.isDigit)
  | _, cs => some (0, cs)

/-- The timestamp that a text writes, with the given separator.  Second 60 is the leap second after
second 59. -/
def read (separator : Separator) (cs : List Char) : Option Timestamp := do
  let (year, cs) ← takeYear cs
  let (month, cs) ← takeField (← takeChar '-' cs)
  let (day, cs) ← takeField (← takeChar '-' cs)
  let (hour, cs) ← takeField (← takeSeparator separator cs)
  let (minute, cs) ← takeField (← takeChar ':' cs)
  let (second, cs) ← takeField (← takeChar ':' cs)
  let (nanos, cs) ← takeFraction separator cs
  if cs.isEmpty then
    if second = 60 then ofMoment? ⟨year, month, day, hour, minute, 59, nanos + nanosPerSecond⟩
    else ofMoment? ⟨year, month, day, hour, minute, second, nanos⟩
  else none

/-- The timestamp that a text writes with blanks between date and time. -/
def ofText? (s : String) : Option Timestamp := read .blanks s.toList

/-- The timestamp that a text writes with either separator. -/
def ofAnyText? (s : String) : Option Timestamp :=
  (read .blanks s.toList).orElse fun _ => read .letterT s.toList

end Timestamp

end SqlBuilder
