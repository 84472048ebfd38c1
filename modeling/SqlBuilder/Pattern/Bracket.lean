import SqlBuilder.Pattern.Escape
import SqlBuilder.Pattern.Written

/-! # Bracketed sets in a written pattern

A set in brackets lists characters, ranges, classes and further sets.  `&&`, `--` and `~~` combine
what stands on their two sides, from the left. -/

namespace SqlBuilder.Pattern

open Text (CodeRanges)

/-! ## Named classes -/

/-- The ASCII class of a name. -/
def namedClass? : String → Option CodeRanges
  | "alnum" => some [(0x30, 0x39), (0x41, 0x5A), (0x61, 0x7A)]
  | "alpha" => some [(0x41, 0x5A), (0x61, 0x7A)]
  | "ascii" => some [(0x0, 0x7F)]
  | "blank" => some [(0x9, 0x9), (0x20, 0x20)]
  | "cntrl" => some [(0x0, 0x1F), (0x7F, 0x7F)]
  | "digit" => some [(0x30, 0x39)]
  | "graph" => some [(0x21, 0x7E)]
  | "lower" => some [(0x61, 0x7A)]
  | "print" => some [(0x20, 0x7E)]
  | "punct" => some [(0x21, 0x2F), (0x3A, 0x40), (0x5B, 0x60), (0x7B, 0x7E)]
  | "space" => some [(0x9, 0xD), (0x20, 0x20)]
  | "upper" => some [(0x41, 0x5A)]
  | "word" => some asciiWordRanges
  | "xdigit" => some [(0x30, 0x39), (0x41, 0x46), (0x61, 0x66)]
  | _ => none

/-- Read a named class after its bracket: a colon, possibly `^`, the name, a colon and the closing
bracket.  The first component says whether there was a `^`. -/
def readNamedClass : List Char → Option (Bool × CodeRanges × List Char)
  | ':' :: rest =>
    let (negated, rest) := match rest with
      | '^' :: rest => (true, rest)
      | rest => (false, rest)
    match rest.dropWhile (· != ':') with
    | ':' :: ']' :: after =>
      (namedClass? (String.ofList (rest.takeWhile (· != ':')))).map fun set => (negated, set, after)
    | _ => none
  | _ => none

/-! ## Operations -/

/-- An operation between the parts of a set. -/
inductive SetOperation where
  | inter
  | diff
  | symmDiff
deriving Repr, DecidableEq

/-- The set that an operation gives. -/
def SetOperation.apply : SetOperation → CodeRanges → CodeRanges → CodeRanges
  | inter => CodeRanges.inter
  | diff => CodeRanges.diff
  | symmDiff => CodeRanges.symmDiff

/-- The operation at the start, if there is one. -/
def SetOperation.read? : List Char → Option (SetOperation × List Char)
  | '&' :: '&' :: rest => some (inter, rest)
  | '-' :: '-' :: rest => some (diff, rest)
  | '~' :: '~' :: rest => some (symmDiff, rest)
  | _ => none

/-- What has been listed since the last operation. -/
structure Listing where
  /-- The items, latest first. -/
  items : List (Written CodeRanges) := []
deriving Repr, DecidableEq

/-- List an item. -/
def Listing.add (listing : Listing) (item : Written CodeRanges) : Listing :=
  ⟨item :: listing.items⟩

/-- List a set that is no bracket. -/
def Listing.addSet (listing : Listing) (set : CodeRanges) : Listing := listing.add ⟨set, 0⟩

/-- All items as one set. -/
def Listing.whole (listing : Listing) : Written CodeRanges :=
  ⟨.unions (listing.items.map Written.value), depthOfParts (listing.items.map Written.depth)⟩

/-- The set so far: the operation that waits for its right side, with its left side, and what has
been listed since. -/
def combine (flags : Flags) (waiting : Option (SetOperation × Written CodeRanges))
    (listing : Listing) : Written CodeRanges :=
  match waiting with
  | none => listing.whole
  | some (operation, left) =>
    let right := listing.whole
    ⟨operation.apply (flags.foldCase left.value) (flags.foldCase right.value),
      depthOfParts [left.depth, right.depth]⟩

/-! ## Items -/

/-- Read one end of a range, or an item that is no range. -/
def readItem (flags : Flags) : List Char → Option (Atom × List Char)
  | [] => none
  | '\\' :: rest => readEscape flags rest
  | c :: rest => some (.letter c, rest)

/-- A character that may be listed; ASCII flags allow ASCII characters only. -/
def listable (flags : Flags) (c : Char) : Bool := flags.unicode || decide (c.toNat < 128)

/-- The set of an item that is no range. -/
def setOfItem (flags : Flags) : Atom → Option CodeRanges
  | .letter c => if listable flags c then some (.single c) else none
  | .set s => some s
  | .place _ => none

/-- The set of a range between two items, which must be characters in order. -/
def setOfRange (flags : Flags) : Atom → Atom → Option CodeRanges
  | .letter first, .letter last =>
    if listable flags first && listable flags last && decide (first ≤ last) then
      some (.between first last)
    else none
  | _, _ => none

/-- The character after a minus that decides whether the minus makes a range. -/
def afterMinus (flags : Flags) (cs : List Char) : Option Char :=
  if flags.freeSpacing then
    match cs.dropWhile Text.isBlank with
    | '#' :: rest => (rest.dropWhile Text.isBlank).head?
    | rest => rest.head?
  else cs.head?

/-- Read an item or a range.  A minus before a closing bracket or before another minus makes no
range. -/
def readRange (flags : Flags) (cs : List Char) : Option (CodeRanges × List Char) := do
  let (first, rest) ← readItem flags cs
  match flags.skip rest with
  | '-' :: after =>
    if afterMinus flags after = some ']' ∨ afterMinus flags after = some '-' then
      return (← setOfItem flags first, '-' :: after)
    else
      let (last, rest) ← readItem flags (flags.skip after)
      return (← setOfRange flags first last, rest)
  | rest => return (← setOfItem flags first, rest)

/-! ## Brackets -/

/-- Read a set after its opening bracket, given a reader of what is listed after the start: `^`
turns the set into its complement, and then minuses, or else a closing bracket, stand for
themselves. -/
def readBracket (flags : Flags)
    (readListed : Listing → List Char → Option (Written CodeRanges × List Char))
    (cs : List Char) : Option (Written CodeRanges × List Char) := do
  let (negated, cs) := match flags.skip cs with
    | '^' :: rest => (true, rest)
    | rest => (false, rest)
  let (minuses, cs) := flags.gather (· == '-') cs.length false cs
  let start : Listing := minuses.foldl (fun listing c => listing.addSet (.single c)) {}
  let (start, cs) := match minuses, cs with
    | [], ']' :: rest => (start.addSet (.single ']'), rest)
    | _, rest => (start, rest)
  let (inside, rest) ← readListed start cs
  return (⟨← flags.foldAndNegate negated inside.value, inside.depth + 1⟩, rest)

/-- Read what is listed up to the closing bracket.  The first number bounds the steps, the second
the brackets that may be opened inside of each other. -/
def readListed (flags : Flags) : Nat → Nat → Option (SetOperation × Written CodeRanges) → Listing →
    List Char → Option (Written CodeRanges × List Char)
  | 0, _, _, _, _ => none
  | n + 1, room, waiting, listing, cs =>
    match flags.skip cs with
    | [] => none
    | ']' :: rest => some (combine flags waiting listing, rest)
    | '[' :: rest =>
      match readNamedClass rest with
      | some (negated, set, rest) => do
        let set ← flags.foldAndNegate negated set
        readListed flags n room waiting (listing.addSet set) rest
      | none =>
        if room = 0 then none
        else do
          let (inner, rest) ← readBracket flags (readListed flags n (room - 1) none) rest
          readListed flags n room waiting (listing.add inner) rest
    | cs =>
      match SetOperation.read? cs with
      | some (operation, rest) =>
        readListed flags n room (some (operation, combine flags waiting listing)) {} rest
      | none => do
        let (set, rest) ← readRange flags cs
        readListed flags n room waiting (listing.addSet set) rest

/-- Read a set after its opening bracket. -/
def readSet (flags : Flags) (cs : List Char) : Option (Written CodeRanges × List Char) :=
  readBracket flags (readListed flags (cs.length + 1) depthLimit none) cs

end SqlBuilder.Pattern
