import SqlBuilder.Pattern.Automaton.Words
import SqlBuilder.Pattern.Combination

/-! # The automaton of a pattern

A pattern is run by two automata over bytes, one that reads forwards and one that reads backwards.
Counted repetitions are written out, so short patterns can have large automata.  `Automaton.fits`
says whether both are within the limit. -/

namespace SqlBuilder.Pattern.Automaton

/-! ## Parts -/

/-- An automaton to which a part was just added. -/
structure Grown where
  /-- The automaton. -/
  tally : Tally
  /-- Whether the last state of the part branches, so that an edge from it takes room. -/
  branching : Bool
deriving Repr, DecidableEq

/-- A part of an automaton: how it is added. -/
abbrev Part : Type := Tally → Option Grown

/-- Lead on from the last state of a part. -/
def Grown.link (g : Grown) (t : Tally) : Option Tally :=
  if g.branching then t.addBranches 1 else some t

/-- A part of so many states in a row. -/
def inRow (count : Nat) : Part := fun t => (t.addStates count).map fun t => ⟨t, false⟩

/-- One part behind another. -/
def Part.andThen (first second : Part) : Part := fun t => do
  let g ← first t
  let h ← second g.tally
  return ⟨← g.link h.tally, h.branching⟩

/-- Add a part so many times behind another. -/
def Grown.addCopies (part : Part) : Nat → Grown → Option Grown
  | 0, g => some g
  | n + 1, g =>
    match part g.tally with
    | none => none
    | some h =>
      match g.link h.tally with
      | none => none
      | some t => addCopies part n ⟨t, h.branching⟩

/-- A part so many times. -/
def Part.copies (part : Part) : Nat → Part
  | 0 => inRow 1
  | n + 1 => fun t => (part t).bind (Grown.addCopies part n)

/-- Add a part so many times behind another, with a way out before each. -/
def Grown.addOptions (part : Part) : Nat → Grown → Option Grown
  | 0, g => some g
  | n + 1, g =>
    match (g.tally.addStates 1).bind part with
    | none => none
    | some h =>
      match (g.link h.tally).bind fun t => t.addBranches 2 with
      | none => none
      | some t => addOptions part n ⟨t, h.branching⟩

/-- A part at least and at most so many times. -/
def Part.between (part : Part) (least most : Nat) : Part := fun t => do
  let g ← part.copies least t
  if least = most then return g
  let t ← g.tally.addStates 1
  let h ← Grown.addOptions part (most - least) ⟨t, g.branching⟩
  return ⟨← h.link h.tally, false⟩

/-- A part or nothing. -/
def Part.optional (part : Part) : Part := fun t => do
  let g ← part (← t.addStates 1)
  let t ← (← g.tally.addStates 1).addBranches 2
  return ⟨← g.link t, false⟩

/-- A part any number of times.  If it can be empty, it is repeated at least once or left out. -/
def Part.star (part : Part) (consumes : Bool) : Part := fun t => do
  if consumes then
    let g ← part (← t.addStates 1)
    return ⟨← g.link (← g.tally.addBranches 1), true⟩
  else
    let g ← part t
    let t ← (← g.tally.addStates 3).addBranches 4
    return ⟨← g.link t, false⟩

/-- A part at least once. -/
def Part.plus (part : Part) : Part := fun t => do
  let g ← part t
  let t ← (← g.tally.addStates 1).addBranches 1
  return ⟨← g.link t, true⟩

/-- A part at least so many times. -/
def Part.atLeast (part : Part) (consumes : Bool) : Nat → Part
  | 0 => part.star consumes
  | 1 => part.plus
  | n + 2 => (part.copies (n + 1)).andThen part.plus

/-- A repetition of a part. -/
def Part.repeated (part : Part) (consumes : Bool) (least : Nat) : Option Nat → Part
  | none => part.atLeast consumes least
  | some most => if least = 0 ∧ most = 1 then part.optional else part.between least most

/-! ## Choices -/

/-- One of the alternatives of a choice. -/
structure Alternative where
  /-- The characters, if the alternative is a literal. -/
  word : Option (List Char)
  /-- The part. -/
  part : Part

/-- Add the further alternatives of a choice. -/
def addAlternatives : List Alternative → Tally → Option Tally
  | [], t => some t
  | alternative :: rest, t =>
    match alternative.part t with
    | none => none
    | some g =>
      match (g.tally.addBranches 1).bind g.link with
      | none => none
      | some t => addAlternatives rest t

/-- The part of a choice: a tree if all alternatives are words, or a state that branches to them and
one in which they meet. -/
def partOfChoice (direction : Direction) : List Alternative → Part
  | [] => inRow 1
  | [only] => only.part
  | first :: second :: rest =>
    match (first :: second :: rest).mapM Alternative.word with
    | some words =>
      let add := addWords direction words
      fun t => (add t).map fun t => ⟨t, false⟩
    | none => fun t => do
      let g ← first.part t
      let h ← second.part g.tally
      let t ← (← h.tally.addStates 2).addBranches 2
      return ⟨← addAlternatives rest (← h.link (← g.link t)), false⟩

/-- Some alternatives as one. -/
def asOne (direction : Direction) : List Alternative → Alternative
  | [only] => only
  | many => ⟨none, partOfChoice direction many⟩

/-! ## Patterns -/

/-- The alternatives of a pattern, of which one that is no choice has only one. -/
def alternatives (direction : Direction) : Pattern → List Alternative
  | empty => [⟨none, inRow 1⟩]
  | literal cs => [⟨some cs, inRow (bytesOf direction cs).length⟩]
  | oneOf set =>
    let add := addSet direction set
    [⟨none, fun t => (add t).map fun t => ⟨t, false⟩⟩]
  | assertion _ => [⟨none, inRow 1⟩]
  | sequence a b =>
    let first := partOfChoice direction (alternatives direction a)
    let second := partOfChoice direction (alternatives direction b)
    [⟨none, match direction with
      | .forward => first.andThen second
      | .backward => second.andThen first⟩]
  | choice a b => asOne direction (alternatives direction a) :: alternatives direction b
  | repetition a least most =>
    let part := partOfChoice direction (alternatives direction a)
    [⟨none, part.repeated a.consumes least most⟩]
  | group _ a =>
    let part := partOfChoice direction (alternatives direction a)
    [⟨none, match direction with
      | .forward => (inRow 1).andThen (part.andThen (inRow 1))
      | .backward => part⟩]

/-- The part of a pattern. -/
def partOf (direction : Direction) (p : Pattern) : Part :=
  partOfChoice direction (alternatives direction p)

/-- Whether every match starts at the start of the text. -/
def startsText : Pattern → Bool
  | assertion .textStart => true
  | sequence a b => startsText a || (a.isEmptyOnly && startsText b)
  | choice a b => startsText a && startsText b
  | repetition a least _ => decide (0 < least) && startsText a
  | group _ a => startsText a
  | _ => false

/-- Whether every match ends at the end of the text. -/
def endsText : Pattern → Bool
  | assertion .textEnd => true
  | sequence a b => endsText b || (b.isEmptyOnly && endsText a)
  | choice a b => endsText a && endsText b
  | repetition a least _ => decide (0 < least) && endsText a
  | group _ a => endsText a
  | _ => false

/-- The whole automaton of a pattern in one direction: a start, which passes over characters unless
the pattern is anchored there, the pattern, which forwards is a group of its own, and the end. -/
def whole (direction : Direction) (p : Pattern) : Option Tally := do
  let (anchored, body) := match direction with
    | .forward => (startsText p, partOf direction (.group 0 p))
    | .backward => (endsText p, partOf direction p)
  let t ← if anchored then Tally.addStates {} 1
    else (← (← Tally.addStates {} 2).addRanges 1).addBranches 2
  let g ← body t
  g.link (← g.tally.addStates 1)

/-- Whether the automata of a pattern are within the limit. -/
def fits (p : Pattern) : Bool := (whole .forward p).isSome && (whole .backward p).isSome

end SqlBuilder.Pattern.Automaton
