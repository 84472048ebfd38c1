import SqlBuilder.Pattern.Automaton.Memo
import SqlBuilder.Pattern.Automaton.Tally
import SqlBuilder.Text.Utf8

/-! # Automata of sets of characters

The automaton of a set reads the bytes of its characters.  Read forwards, encodings that start alike
share their first states, and states with the same future are one as long as a memo remembers them.
Read backwards, each sequence has its own states, except those that a memo remembers. -/

namespace SqlBuilder.Pattern.Automaton

open Text (ByteRange CodeRanges)

/-! ## Forwards -/

/-- An edge for a range of bytes. -/
structure Edge where
  /-- The bytes. -/
  bytes : ByteRange
  /-- The number of the state behind it. -/
  target : Nat
deriving Repr, DecidableEq

/-- A state that is not complete. -/
structure OpenState where
  /-- The complete edges, latest first. -/
  edges : List Edge := []
  /-- The bytes of the edge of which the target is not complete. -/
  last : Option ByteRange := none

/-- Give the last edge its target. -/
def OpenState.close (s : OpenState) (target : Nat) : OpenState :=
  match s.last with
  | some bytes => ⟨⟨bytes, target⟩ :: s.edges, none⟩
  | none => s

/-- An automaton under construction with the states that a memo remembers. -/
structure Sharing where
  /-- The automaton so far. -/
  tally : Tally
  /-- The numbers of states with their edges. -/
  memo : Memo (List Edge)

/-- The hash of edges. -/
def hashOfEdges (edges : List Edge) : UInt64 :=
  hashOf (edges.flatMap fun e =>
    [e.bytes.first.toUInt64, e.bytes.last.toUInt64, UInt64.ofNat e.target])

/-- The number of a state with some edges: one that is remembered, or a new one. -/
def Sharing.complete (s : Sharing) (edges : List Edge) : Option (Nat × Sharing) :=
  let hash := hashOfEdges edges
  match s.memo.find? hash edges with
  | some state => some (state, s)
  | none => do
    let tally ← s.tally.addRanges edges.length
    return (s.tally.states, ⟨tally, s.memo.put hash edges s.tally.states⟩)

/-- Complete a path of open states from its end.  The last one leads to `final`. -/
def Sharing.completeAll (final : Nat) : List OpenState → Sharing → Option (Nat × Sharing)
  | [], s => some (final, s)
  | state :: rest, s => do
    let (next, s) ← completeAll final rest s
    s.complete (state.close next).edges.reverse

/-- Add a sequence to a path of open states: what it shares with the sequence before it stays open,
and the rest of that one is completed. -/
def Sharing.addSequence (final : Nat) : List OpenState → List ByteRange → Sharing →
    Option (List OpenState × Sharing)
  | state :: rest, bytes :: more, s =>
    if state.last = some bytes then do
      let (rest, s) ← addSequence final rest more s
      return (state :: rest, s)
    else do
      let (next, s) ← completeAll final rest s
      let start := { state.close next with last := some bytes }
      return (start :: more.map fun bytes => ⟨[], some bytes⟩, s)
  | _, more, s => some (more.map fun bytes => ⟨[], some bytes⟩, s)

/-- Add sequences one after another, and complete the path at the end. -/
def Sharing.addSequences (final : Nat) : List (List ByteRange) → List OpenState → Sharing →
    Option Tally
  | [], path, s => (completeAll final path s).map fun result => result.2.tally
  | bytes :: rest, path, s =>
    match addSequence final path bytes s with
    | some (path, s) => addSequences final rest path s
    | none => none

/-- The number of states that are remembered. -/
def forwardMemoSize : Nat := 10000

/-- Add the automaton of a set that is read forwards. -/
def addForwardSet (sequences : List (List ByteRange)) (t : Tally) : Option Tally := do
  let final := t.states
  let t ← t.addStates 1
  Sharing.addSequences final sequences [{}] ⟨t, .ofSize forwardMemoSize⟩

/-! ## Backwards -/

/-- An edge by its target and its bytes. -/
structure BackwardKey where
  /-- The number of the state behind the edge. -/
  target : Nat
  /-- The bytes. -/
  bytes : ByteRange
deriving Repr, DecidableEq

/-- The hash of an edge. -/
def BackwardKey.hash (key : BackwardKey) : UInt64 :=
  hashOf [UInt64.ofNat key.target, key.bytes.first.toUInt64, key.bytes.last.toUInt64]

/-- Add the states of one sequence, of which the first byte leads to `target`. -/
def addBackwardSequence : List ByteRange → Nat → Tally → Memo BackwardKey →
    Option (Tally × Memo BackwardKey)
  | [], _, t, memo => some (t, memo)
  | bytes :: rest, target, t, memo =>
    let key : BackwardKey := ⟨target, bytes⟩
    match memo.find? key.hash key with
    | some state => addBackwardSequence rest state t memo
    | none =>
      match t.addStates 1 with
      | some next => addBackwardSequence rest t.states next (memo.put key.hash key t.states)
      | none => none

/-- Add sequences one after another, each with an edge from the state that chooses among them. -/
def addBackwardSequences (final : Nat) : List (List ByteRange) → Tally → Memo BackwardKey →
    Option Tally
  | [], t, _ => some t
  | bytes :: rest, t, memo =>
    match addBackwardSequence bytes final t memo with
    | some (t, memo) =>
      match t.addBranches 1 with
      | some t => addBackwardSequences final rest t memo
      | none => none
    | none => none

/-- The number of edges that are remembered. -/
def backwardMemoSize : Nat := 1000

/-- Add the automaton of a set that is read backwards. -/
def addBackwardSet (sequences : List (List ByteRange)) (t : Tally) : Option Tally := do
  let final := t.states + 1
  let t ← t.addStates 2
  addBackwardSequences final sequences t (.ofSize backwardMemoSize)

/-! ## Either way -/

/-- The direction in which a text is read. -/
inductive Direction where
  | forward
  | backward
deriving Repr, DecidableEq

/-- Add the automaton of a set.  One state tells the ranges of a set of ASCII characters apart. -/
def addSet (direction : Direction) (set : CodeRanges) : Tally → Option Tally :=
  if set.isAscii then fun t => do (← t.addStates 1).addRanges set.length
  else
    let sequences := Text.utf8Sequences set
    match direction with
    | .forward => addForwardSet sequences
    | .backward => addBackwardSet sequences

end SqlBuilder.Pattern.Automaton
