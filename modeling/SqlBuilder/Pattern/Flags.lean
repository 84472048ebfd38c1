import SqlBuilder.Pattern
import SqlBuilder.Text.Blank
import SqlBuilder.Text.CaseFolding

/-! # Flags of a written pattern

Flags change how the rest of a group is read.  In free spacing, blanks and comments from `#` to the
end of the line may stand between the parts of a pattern; `Flags.skip` passes over them, and
`Flags.gather` collects characters across them. -/

namespace SqlBuilder.Pattern

open Text (CodeRanges)

/-- How a part of a written pattern is to be read. -/
structure Flags where
  /-- Letters stand for both cases. -/
  ignoreCase : Bool := false
  /-- `^` and `$` hold at the start and end of every line. -/
  multiLine : Bool := false
  /-- `.` stands for a line feed too. -/
  dotAll : Bool := false
  /-- Classes, cases and words are those of all scripts, not only of ASCII. -/
  unicode : Bool := true
  /-- A carriage return ends a line too. -/
  returns : Bool := false
  /-- Blanks and comments are skipped. -/
  freeSpacing : Bool := false
deriving Repr, DecidableEq

namespace Flags

/-- Set the flag of a letter.  The letter `U` exchanges which of several matches is preferred, which
does not change whether there is one. -/
def set (flags : Flags) (on : Bool) : Char → Option Flags
  | 'i' => some { flags with ignoreCase := on }
  | 'm' => some { flags with multiLine := on }
  | 's' => some { flags with dotAll := on }
  | 'u' => some { flags with unicode := on }
  | 'R' => some { flags with returns := on }
  | 'x' => some { flags with freeSpacing := on }
  | 'U' => some flags
  | _ => none

/-- Set the flags that are listed up to a colon or a closing parenthesis.  Those after a minus are
turned off; no letter and no minus may occur twice (`seen` holds those already read, latest first),
and a minus may not be the last. -/
def readList (seen : List Char) (flags : Flags) : List Char → Option (Flags × List Char)
  | [] => none
  | c :: rest =>
    if c = ':' ∨ c = ')' then
      if seen.head? = some '-' then none else some (flags, c :: rest)
    else if seen.contains c then none
    else if c = '-' then readList (c :: seen) flags rest
    else (flags.set (!seen.contains '-') c).bind fun flags => readList (c :: seen) flags rest

/-! ## Free spacing -/

/-- Drop the blanks and comments at the start; `inComment` says whether a comment is open. -/
def dropSpacing (inComment : Bool) : List Char → List Char
  | [] => []
  | c :: rest =>
    if inComment then dropSpacing (c != '\n') rest
    else if Text.isBlank c then dropSpacing false rest
    else if c = '#' then dropSpacing true rest
    else c :: rest

/-- Drop what free spacing allows at the start. -/
def skip (flags : Flags) (cs : List Char) : List Char :=
  if flags.freeSpacing then dropSpacing false cs else cs

/-- Collect at most `limit` characters of a class from the start, across what free spacing allows
between them; the second part is what follows. -/
def gather (flags : Flags) (p : Char → Bool) (limit : Nat) (inComment : Bool) :
    List Char → List Char × List Char
  | [] => ([], [])
  | c :: rest =>
    if limit = 0 then ([], c :: rest)
    else if inComment then flags.gather p limit (c != '\n') rest
    else if p c then
      let more := flags.gather p (limit - 1) false rest
      (c :: more.1, more.2)
    else if flags.freeSpacing && Text.isBlank c then flags.gather p limit false rest
    else if flags.freeSpacing && c == '#' then flags.gather p limit true rest
    else ([], c :: rest)

/-! ## Sets of characters under flags -/

/-- The set of a class letter in lower case: digits, white space or the characters of words. -/
def classOfLetter (flags : Flags) : Char → CodeRanges
  | 'd' => if flags.unicode then Text.decimalDigitRanges else [(0x30, 0x39)]
  | 's' => if flags.unicode then Text.blankRanges else [(0x9, 0xD), (0x20, 0x20)]
  | _ => if flags.unicode then Text.wordRanges else asciiWordRanges

/-- A set with all characters that are equal to one of its own up to case, if case is ignored. -/
def foldCase (flags : Flags) (set : CodeRanges) : CodeRanges :=
  if !flags.ignoreCase then set else if flags.unicode then set.foldCase else set.foldAsciiCase

/-- A set that ASCII flags allow: it must not hold characters beyond ASCII. -/
def checked (flags : Flags) (set : CodeRanges) : Option CodeRanges :=
  if flags.unicode || set.isAscii then some set else none

/-- A set as it is listed, without regard to case if flags say so, and then possibly turned into its
complement. -/
def foldAndNegate (flags : Flags) (negated : Bool) (set : CodeRanges) : Option CodeRanges :=
  let set := flags.foldCase set
  flags.checked (if negated then set.complement else set)

/-- The set that `.` stands for; ASCII flags have none. -/
def anyCharacter (flags : Flags) : Option CodeRanges :=
  if !flags.unicode then none
  else if flags.dotAll then some (.complement [])
  else if flags.returns then some (.complement [(0xA, 0xA), (0xD, 0xD)])
  else some (.complement [(0xA, 0xA)])

end Flags

end SqlBuilder.Pattern
