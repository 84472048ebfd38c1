import SqlBuilder.Pattern.Combination
import SqlBuilder.Pattern.PropertyName

/-! # Escapes in a written pattern

A backslash and what follows it stand for a character, a set of characters or an assertion. -/

namespace SqlBuilder.Pattern

open Text (CodeRanges)

/-- What a smallest part of a written pattern stands for. -/
inductive Atom where
  /-- One character. -/
  | letter (c : Char)
  /-- One character of a set. -/
  | set (s : CodeRanges)
  /-- A place in the text. -/
  | place (a : Assertion)
deriving Repr, DecidableEq

/-- The pattern of an atom; a letter stands for its other cases too if case is ignored. -/
def Atom.toPattern (flags : Flags) : Atom → Pattern
  | letter c => if flags.ignoreCase then ofSet (flags.foldCase (.single c)) else .literal [c]
  | set s => ofSet s
  | place a => .assertion a

/-! ## Characters by number -/

/-- The character whose code point is written in hexadecimal digits. -/
def charOfHex? (digits : List Char) : Option Char :=
  let code := Text.ofHexDigits digits
  if digits.isEmpty then none else if code.isValidChar then some (Char.ofNat code) else none

/-- Read the code point of an escape with `count` hexadecimal digits, or any number of them in
braces.  Two digits without braces name a byte, which ASCII flags allow up to 127 only. -/
def readHex (flags : Flags) (count : Nat) (cs : List Char) : Option (Atom × List Char) :=
  match flags.skip cs with
  | '{' :: rest =>
    match flags.gather Text.isHexDigit rest.length false rest with
    | (digits, '}' :: rest) => (charOfHex? digits).map fun c => (.letter c, rest)
    | _ => none
  | rest =>
    let (digits, rest) := flags.gather Text.isHexDigit count false rest
    if digits.length = count then
      (charOfHex? digits).bind fun c =>
        if count = 2 ∧ !flags.unicode ∧ 0x7F < c.toNat then none else some (.letter c, rest)
    else none

/-! ## Word boundaries -/

/-- Read the rest of an escape that starts with `b`: a name in braces chooses one side of the
boundary.  Braces that do not start with a letter or a minus belong to what follows. -/
def readBoundary (flags : Flags) (cs : List Char) : Option (Atom × List Char) :=
  let isNameChar := fun (c : Char) => c.isAlpha || c == '-'
  let plain := some (Atom.place (.wordBoundary flags.unicode), cs)
  match cs with
  | '{' :: inside =>
    match flags.skip inside with
    | [] => none
    | c :: _ =>
      if isNameChar c then
        match flags.gather isNameChar inside.length false inside with
        | (name, '}' :: rest) =>
          match String.ofList name with
          | "start" => some (.place (.wordStart flags.unicode), rest)
          | "end" => some (.place (.wordEnd flags.unicode), rest)
          | "start-half" => some (.place (.noWordBefore flags.unicode), rest)
          | "end-half" => some (.place (.noWordAfter flags.unicode), rest)
          | _ => none
        | _ => none
      else plain
  | _ => plain

/-! ## Escapes -/

/-- Read what follows a backslash.  Every ASCII character that is no letter and no digit may be
escaped and stands for itself. -/
def readEscape (flags : Flags) : List Char → Option (Atom × List Char)
  | [] => none
  | c :: rest =>
    match c with
    | 'x' => readHex flags 2 rest
    | 'u' => readHex flags 4 rest
    | 'U' => readHex flags 8 rest
    | 'd' | 's' | 'w' => some (.set (flags.classOfLetter c), rest)
    | 'D' | 'S' | 'W' =>
      (flags.checked (.complement (flags.classOfLetter c.toLower))).map fun s => (.set s, rest)
    | 'p' => (readProperty flags false rest).map fun (s, rest) => (.set s, rest)
    | 'P' => (readProperty flags true rest).map fun (s, rest) => (.set s, rest)
    | 'a' => some (.letter '\x07', rest)
    | 'f' => some (.letter '\x0c', rest)
    | 't' => some (.letter '\t', rest)
    | 'n' => some (.letter '\n', rest)
    | 'r' => some (.letter '\r', rest)
    | 'v' => some (.letter '\x0b', rest)
    | 'A' => some (.place .textStart, rest)
    | 'z' => some (.place .textEnd, rest)
    | 'b' => readBoundary flags rest
    | 'B' => some (.place (.notWordBoundary flags.unicode), rest)
    | '<' => some (.place (.wordStart flags.unicode), rest)
    | '>' => some (.place (.wordEnd flags.unicode), rest)
    | c => if c.toNat < 128 && !c.isAlphanum then some (.letter c, rest) else none

end SqlBuilder.Pattern
