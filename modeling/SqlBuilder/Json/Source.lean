/-! # The shape of JSON texts

A JSON text is read in two steps.  The first finds its shape: brackets, keys and the characters of
numbers and strings, each in its grammar.  What the numbers and strings mean, and how deep brackets
may nest, is left to the second step, which looks only at the parts that somebody wants. -/

namespace SqlBuilder

/-- The characters of a number. -/
structure NumberSource where
  /-- Whether a minus sign stands in front. -/
  negative : Bool
  /-- The digits before the point. -/
  whole : List Char
  /-- The digits behind the point. -/
  fraction : List Char
  /-- The sign of the exponent (`true` for minus) and its digits. -/
  power : Option (Bool × List Char)
  /-- Whether the number is written without point and exponent. -/
  isWhole : Bool
deriving Repr, DecidableEq

/-- A piece of a string. -/
inductive StringPiece where
  /-- A character, written as it is or by a short escape. -/
  | char (c : Char)
  /-- A 16-bit unit, written by a `\u` escape. -/
  | unit (code : Nat)
deriving Repr, DecidableEq

/-- The shape of a JSON text. -/
inductive JsonSource where
  | null
  | bool (b : Bool)
  | number (n : NumberSource)
  | string (pieces : List StringPiece)
  | array (items : List JsonSource)
  | object (members : List (List StringPiece × JsonSource))

namespace JsonSource

/-- Whether a character may stand between tokens. -/
def isSpace (c : Char) : Bool := c = ' ' || c = '\n' || c = '\t' || c = '\r'

/-- What follows the blanks at the start. -/
def skipSpace (cs : List Char) : List Char := cs.dropWhile isSpace

/-- What follows a required word. -/
def skipWord (word : String) (cs : List Char) : Option (List Char) :=
  if word.toList.isPrefixOf cs then some (cs.drop word.length) else none

/-! ## Numbers -/

/-- A nonempty run of digits and what follows it. -/
def takeDigits (cs : List Char) : Option (List Char × List Char) :=
  let digits := cs.takeWhile Char.isDigit
  if digits.isEmpty then none else some (digits, cs.dropWhile Char.isDigit)

/-- Digits without a needless zero in front, and what follows them. -/
def takeWhole (cs : List Char) : Option (List Char × List Char) :=
  (takeDigits cs).bind fun (digits, rest) =>
    if digits.head? = some '0' ∧ digits.length ≠ 1 then none else some (digits, rest)

/-- An optional fraction; a point needs a digit behind it. -/
def takeFraction : List Char → Option (List Char × List Char)
  | '.' :: rest => takeDigits rest
  | cs => some ([], cs)

/-- An optional exponent; its letter needs a digit behind it, with or without a sign between. -/
def takePower : List Char → Option (Option (Bool × List Char) × List Char)
  | [] => some (none, [])
  | c :: rest =>
    if c = 'e' ∨ c = 'E' then
      let (negative, digits) := match rest with
        | '+' :: more => (false, more)
        | '-' :: more => (true, more)
        | more => (false, more)
      (takeDigits digits).map fun (digits, rest) => (some (negative, digits), rest)
    else some (none, c :: rest)

/-- A number and what follows it. -/
def takeNumber (cs : List Char) : Option (NumberSource × List Char) := do
  let (negative, cs) := match cs with
    | '-' :: rest => (true, rest)
    | cs => (false, cs)
  let (whole, cs) ← takeWhole cs
  let (fraction, cs) ← takeFraction cs
  let (power, cs) ← takePower cs
  return (⟨negative, whole, fraction, power, fraction.isEmpty && power.isNone⟩, cs)

/-! ## Strings -/

/-- The value of a hexadecimal digit. -/
def hexValue (c : Char) : Option Nat :=
  if c.isDigit then some (c.toNat - 48)
  else if 'a' ≤ c ∧ c ≤ 'f' then some (c.toNat - 87)
  else if 'A' ≤ c ∧ c ≤ 'F' then some (c.toNat - 55)
  else none

/-- The characters that follow a backslash alone, with their meaning. -/
def shortEscape (c : Char) : Option Char :=
  if c = '"' ∨ c = '\\' ∨ c = '/' then some c
  else if c = 'b' then some '\x08'
  else if c = 'f' then some '\x0c'
  else if c = 'n' then some '\n'
  else if c = 'r' then some '\r'
  else if c = 't' then some '\t'
  else none

/-- The pieces of a string up to its closing quote, and what follows it. -/
def takeString : List Char → Option (List StringPiece × List Char)
  | [] => none
  | '"' :: rest => some ([], rest)
  | '\\' :: 'u' :: a :: b :: c :: d :: rest => do
    let code := (← hexValue a) * 4096 + (← hexValue b) * 256 + (← hexValue c) * 16 + (← hexValue d)
    let (pieces, rest) ← takeString rest
    return (.unit code :: pieces, rest)
  | '\\' :: e :: rest => do
    let c ← shortEscape e
    let (pieces, rest) ← takeString rest
    return (.char c :: pieces, rest)
  | c :: rest =>
    if c = '\\' ∨ c.toNat < 32 then none
    else (takeString rest).map fun (pieces, rest) => (.char c :: pieces, rest)

/-! ## Values -/

mutual

/-- A value and what follows it.  Every step into a value or to the next item uses up a unit of
`fuel`; a text needs at most two units for each of its characters. -/
def takeValue : Nat → List Char → Option (JsonSource × List Char)
  | 0, _ => none
  | fuel + 1, cs =>
    match skipSpace cs with
    | [] => none
    | '"' :: rest => (takeString rest).map fun (pieces, rest) => (.string pieces, rest)
    | '[' :: rest =>
      match skipSpace rest with
      | ']' :: rest => some (.array [], rest)
      | rest => (takeItems fuel rest).map fun (items, rest) => (.array items, rest)
    | '\x7b' :: rest =>
      match skipSpace rest with
      | '\x7d' :: rest => some (.object [], rest)
      | rest => (takeMembers fuel rest).map fun (members, rest) => (.object members, rest)
    | 'n' :: rest => (skipWord "ull" rest).map fun rest => (.null, rest)
    | 't' :: rest => (skipWord "rue" rest).map fun rest => (.bool true, rest)
    | 'f' :: rest => (skipWord "alse" rest).map fun rest => (.bool false, rest)
    | cs => (takeNumber cs).map fun (n, rest) => (.number n, rest)
termination_by structural fuel => fuel

/-- The items of an array that is not empty, and what follows its bracket. -/
def takeItems : Nat → List Char → Option (List JsonSource × List Char)
  | 0, _ => none
  | fuel + 1, cs => do
    let (item, rest) ← takeValue fuel cs
    match skipSpace rest with
    | ']' :: rest => return ([item], rest)
    | ',' :: rest =>
      let (items, rest) ← takeItems fuel rest
      return (item :: items, rest)
    | _ => none
termination_by structural fuel => fuel

/-- The members of an object that is not empty, and what follows its brace. -/
def takeMembers : Nat → List Char → Option (List (List StringPiece × JsonSource) × List Char)
  | 0, _ => none
  | fuel + 1, cs => do
    match skipSpace cs with
    | '"' :: rest =>
      let (key, rest) ← takeString rest
      match skipSpace rest with
      | ':' :: rest =>
        let (value, rest) ← takeValue fuel rest
        match skipSpace rest with
        | '\x7d' :: rest => return ([(key, value)], rest)
        | ',' :: rest =>
          let (members, rest) ← takeMembers fuel rest
          return ((key, value) :: members, rest)
        | _ => none
      | _ => none
    | _ => none
termination_by structural fuel => fuel

end

/-- The shape of a text that holds one JSON value and blanks around it. -/
def ofText? (s : String) : Option JsonSource :=
  let cs := s.toList
  match takeValue (2 * cs.length + 2) cs with
  | some (value, rest) => if (skipSpace rest).isEmpty then some value else none
  | none => none

end JsonSource

end SqlBuilder
