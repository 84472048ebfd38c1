/-! # The size of an automaton

An automaton grows state by state.  Every state takes the same room; the edges of a state that
branches, or that tells several ranges of bytes apart, take room beside it.  The room is limited. -/

namespace SqlBuilder.Pattern.Automaton

/-- What an automaton under construction is made of. -/
structure Tally where
  /-- The number of states. -/
  states : Nat := 0
  /-- The room of what is kept beside the states, in bytes. -/
  beside : Nat := 0
deriving Repr, DecidableEq

namespace Tally

/-- The room of one state. -/
def stateSize : Nat := 32

/-- The room of one edge of a state that branches. -/
def branchSize : Nat := 4

/-- The room of one edge of a state that tells ranges apart. -/
def rangeSize : Nat := 8

/-- The room that an automaton may take: ten mebibytes. -/
def limit : Nat := 10 * 1024 * 1024

/-- The room that the automaton takes. -/
def size (t : Tally) : Nat := stateSize * t.states + t.beside

/-- Add states and what is kept beside them, if there is room. -/
def grow (t : Tally) (states beside : Nat) : Option Tally :=
  let next : Tally := ⟨t.states + states, t.beside + beside⟩
  if next.size ≤ limit then some next else none

/-- Add states with nothing beside them. -/
def addStates (t : Tally) (count : Nat) : Option Tally := t.grow count 0

/-- Add a state that tells so many ranges apart. -/
def addRanges (t : Tally) (count : Nat) : Option Tally := t.grow 1 (rangeSize * count)

/-- Add edges to states that branch. -/
def addBranches (t : Tally) (count : Nat) : Option Tally := t.grow 0 (branchSize * count)

end Tally

end SqlBuilder.Pattern.Automaton
