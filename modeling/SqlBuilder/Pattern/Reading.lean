import SqlBuilder.Pattern.Automaton
import SqlBuilder.Pattern.Bracket
import SqlBuilder.Text.Letter

/-! # Reading a written pattern

A pattern is written as alternatives of pieces: characters, escapes, sets in brackets, groups in
parentheses, each possibly repeated.  `Pattern.ofText?` reads a text as a pattern and refuses texts
that are not well formed. -/

namespace SqlBuilder.Pattern

/-! ## Pieces and alternatives -/

/-- A part of an alternative. -/
structure Piece where
  /-- What it writes. -/
  written : Written Pattern
  /-- Whether it can be repeated. -/
  repeatable : Bool
deriving Repr, DecidableEq

/-- What has been read of a group. -/
structure Draft where
  /-- The alternatives that are complete, latest first. -/
  settled : List (Written Pattern) := []
  /-- The pieces of the open alternative, latest first. -/
  pieces : List Piece := []
deriving Repr, DecidableEq

namespace Draft

/-- The open alternative. -/
def alternative (d : Draft) : Written Pattern :=
  let parts := d.pieces.map Piece.written
  ⟨concat (parts.map Written.value).reverse, depthOfParts (parts.map Written.depth)⟩

/-- All that has been read, as one pattern. -/
def whole (d : Draft) : Written Pattern :=
  match d.settled with
  | [] => d.alternative
  | settled =>
    let parts := d.alternative :: settled
    ⟨alternation (parts.map Written.value).reverse, depthOfParts (parts.map Written.depth)⟩

/-- Add a piece. -/
def push (d : Draft) (p : Written Pattern) : Draft := { d with pieces := ⟨p, true⟩ :: d.pieces }

/-- Add a directive, which cannot be repeated. -/
def pushDirective (d : Draft) : Draft :=
  { d with pieces := ⟨⟨.empty, 0⟩, false⟩ :: d.pieces }

/-- Start the next alternative. -/
def nextAlternative (d : Draft) : Draft := { settled := d.alternative :: d.settled }

@[simp] theorem whole_new : whole {} = ⟨.empty, 0⟩ := rfl

/-- A piece that was just added comes last. -/
@[simp] theorem pieces_push (d : Draft) (p : Written Pattern) :
    (d.push p).pieces = ⟨p, true⟩ :: d.pieces := rfl

/-- Repeat the last piece, if there is one, unless it gets too deep. -/
def repeatLast (d : Draft) (least : Nat) (most : Option Nat) : Option Draft :=
  match d.pieces with
  | ⟨p, true⟩ :: before =>
    if p.depth < depthLimit then
      some { d with pieces := ⟨⟨repeated p.value least most, p.depth + 1⟩, true⟩ :: before }
    else none
  | _ => none

end Draft

/-! ## Repetition -/

/-- Drop a question mark, which after a repetition only says which match is preferred. -/
def dropPreference : List Char → List Char
  | '?' :: rest => rest
  | rest => rest

/-- Read a number below 2³² and the blanks around it. -/
def readCount (flags : Flags) (cs : List Char) : Option (Nat × List Char) :=
  let (digits, rest) := flags.gather Char.isDigit cs.length false (cs.dropWhile Text.isBlank)
  let n := digits.foldl (fun n c => 10 * n + (c.toNat - '0'.toNat)) 0
  if digits.isEmpty || decide (UInt32.size ≤ n) then none else some (n, rest.dropWhile Text.isBlank)

/-- Read the bounds of a repetition after its opening brace. -/
def readBounds (flags : Flags) (cs : List Char) : Option (Nat × Option Nat × List Char) := do
  let (least, rest) ← readCount flags (flags.skip cs)
  let (most, rest) ← match rest with
    | ',' :: rest =>
      match flags.skip rest with
      | '}' :: rest => some (none, '}' :: rest)
      | rest => (readCount flags rest).map fun (n, rest) => (some n, rest)
    | rest => some (some least, rest)
  match rest with
  | '}' :: rest =>
    if most.all (decide <| least ≤ ·) then some (least, most, dropPreference (flags.skip rest))
    else none
  | _ => none

/-! ## Groups -/

/-- What an opening parenthesis starts. -/
inductive Opening where
  /-- A group with the flags that hold in it and the names given so far; `numbered` says whether
  what it matches is remembered. -/
  | group (numbered : Bool) (flags : Flags) (names : List (List Char)) (rest : List Char)
  /-- A directive that sets the flags of what follows in the enclosing group. -/
  | directive (flags : Flags) (rest : List Char)
deriving Repr, DecidableEq

/-- Whether a text can name a group. -/
def isGroupName : List Char → Bool
  | [] => false
  | c :: rest =>
    (c == '_' || Text.isLetter c)
      && rest.all fun c => c == '_' || c == '.' || c == '[' || c == ']' || Text.isLetterOrNumber c

/-- Read a new group name up to the closing angle bracket. -/
def readGroupName (names : List (List Char)) (cs : List Char) :
    Option (List (List Char) × List Char) :=
  let name := cs.takeWhile (· != '>')
  match cs.dropWhile (· != '>') with
  | _ :: rest =>
    if isGroupName name && !names.contains name then some (name :: names, rest) else none
  | [] => none

/-- Read what follows an opening parenthesis up to the content of the group.  The names of two
groups differ, and a directive sets at least one flag. -/
def readOpening (flags : Flags) (names : List (List Char)) (cs : List Char) : Option Opening :=
  match flags.skip cs with
  | '?' :: 'P' :: '<' :: rest | '?' :: '<' :: rest =>
    (readGroupName names rest).map fun (names, rest) => .group true flags names rest
  | '?' :: ')' :: _ => none
  | '?' :: rest =>
    match flags.readList [] rest with
    | some (inner, ')' :: rest) => some (.directive inner rest)
    | some (inner, _ :: rest) => some (.group false inner names rest)
    | _ => none
  | rest => some (.group true flags names rest)

/-! ## The whole -/

/-- How far a text has been read. -/
structure Progress where
  /-- The flags that hold from here. -/
  flags : Flags
  /-- The names of the groups so far. -/
  names : List (List Char)
  /-- The number of groups so far that are remembered. -/
  groups : Nat
  /-- What is left. -/
  rest : List Char
deriving Repr, DecidableEq

/-- Read one piece that is no group and no repetition. -/
def readPiece (flags : Flags) : List Char → Option (Written Pattern × List Char)
  | [] => none
  | '[' :: rest =>
    (readSet flags rest).map fun (set, rest) => (⟨ofSet set.value, set.depth⟩, rest)
  | '\\' :: rest =>
    (readEscape flags rest).map fun (atom, rest) => (⟨atom.toPattern flags, 0⟩, rest)
  | '.' :: rest => flags.anyCharacter.map fun set => (⟨.oneOf set, 0⟩, rest)
  | '^' :: rest =>
    some (⟨.assertion (if flags.multiLine then .lineStart flags.returns else .textStart), 0⟩, rest)
  | '$' :: rest =>
    some (⟨.assertion (if flags.multiLine then .lineEnd flags.returns else .textEnd), 0⟩, rest)
  | c :: rest => some (⟨(Atom.letter c).toPattern flags, 0⟩, rest)

/-- The pattern of a group with a content. -/
def ofGroup (numbered : Bool) (index : Nat) (content : Written Pattern) : Written Pattern :=
  ⟨if numbered then .group index content.value else content.value, content.depth + 1⟩

/-- Read the alternatives of a group up to its closing parenthesis, which is left, or the end of the
text.  The first number bounds the steps, the second the groups that may be opened inside of each
other. -/
def readGroup : Nat → Nat → Draft → Progress → Option (Written Pattern × Progress)
  | 0, _, _, _ => none
  | n + 1, room, d, s =>
    match s.flags.skip s.rest with
    | [] => some (d.whole, { s with rest := [] })
    | ')' :: rest => some (d.whole, { s with rest := ')' :: rest })
    | '|' :: rest => readGroup n room d.nextAlternative { s with rest }
    | '(' :: rest =>
      match readOpening s.flags s.names rest with
      | none => none
      | some (.directive flags rest) => readGroup n room d.pushDirective { s with flags, rest }
      | some (.group numbered flags names rest) =>
        let index := s.groups + 1
        let groups := if numbered then index else s.groups
        if room = 0 then none
        else match readGroup n (room - 1) {} ⟨flags, names, groups, rest⟩ with
          | some (p, ⟨_, names, groups, ')' :: rest⟩) =>
            readGroup n room (d.push (ofGroup numbered index p)) ⟨s.flags, names, groups, rest⟩
          | _ => none
    | '?' :: rest => do
      readGroup n room (← d.repeatLast 0 (some 1)) { s with rest := dropPreference rest }
    | '*' :: rest => do
      readGroup n room (← d.repeatLast 0 none) { s with rest := dropPreference rest }
    | '+' :: rest => do
      readGroup n room (← d.repeatLast 1 none) { s with rest := dropPreference rest }
    | '{' :: rest => do
      let (least, most, rest) ← readBounds s.flags rest
      readGroup n room (← d.repeatLast least most) { s with rest }
    | cs => do
      let (p, rest) ← readPiece s.flags cs
      readGroup n room (d.push p) { s with rest }

/-- The pattern that characters write.  Every parenthesis must have its partner, the pattern may not
be too deep, and its automaton not too large. -/
def ofChars? (cs : List Char) : Option Pattern :=
  match readGroup (cs.length + 1) depthLimit {} ⟨{}, [], 0, cs⟩ with
  | some (p, ⟨_, _, _, []⟩) =>
    if p.depth ≤ depthLimit && Automaton.fits p.value then some p.value else none
  | _ => none

/-- The pattern that a text writes. -/
def ofText? (text : String) : Option Pattern := ofChars? text.toList

end SqlBuilder.Pattern
