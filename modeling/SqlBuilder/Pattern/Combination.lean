import SqlBuilder.Pattern

/-! # Patterns put together

Patterns are put together in one form for each meaning that is easy to see: sequences and choices
are flat chains to the right, neighbouring characters are one literal, a choice of characters is a
set, and a repetition of what is always empty happens at most once. -/

namespace SqlBuilder.Pattern

open Text (CodeRanges)

/-! ## Lengths -/

/-- The length of a shortest match, unless a set without characters stands in the way. -/
def minLength : Pattern → Option Nat
  | empty => some 0
  | literal cs => some cs.length
  | oneOf set => if set.isEmpty then none else some 1
  | assertion _ => some 0
  | sequence a b => do return (← a.minLength) + (← b.minLength)
  | choice a b => do return min (← a.minLength) (← b.minLength)
  | repetition a least _ => a.minLength.map (· * least)
  | group _ a => a.minLength

/-- Whether every match takes at least one character. -/
def consumes (p : Pattern) : Bool := p.minLength.any (decide <| 0 < ·)

/-- Whether the pattern is made of empty stretches and assertions alone. -/
def isEmptyOnly : Pattern → Bool
  | empty => true
  | literal cs => cs.isEmpty
  | oneOf _ => false
  | assertion _ => true
  | sequence a b => a.isEmptyOnly && b.isEmptyOnly
  | choice a b => a.isEmptyOnly && b.isEmptyOnly
  | repetition a _ _ => a.isEmptyOnly
  | group _ a => a.isEmptyOnly

/-! ## Sets -/

/-- One character of a set; the only one stands for itself. -/
def ofSet (set : CodeRanges) : Pattern :=
  match set.onlyChar? with
  | some c => literal [c]
  | none => oneOf set

/-! ## Sequences -/

/-- The parts that stand one after another. -/
def factors : Pattern → List Pattern
  | empty => []
  | sequence a b => a :: b.factors
  | p => [p]

/-- Neighbouring literals as one. -/
def mergeLiterals : List Pattern → List Pattern
  | [] => []
  | literal cs :: rest =>
    match mergeLiterals rest with
    | literal ds :: more => literal (cs ++ ds) :: more
    | more => literal cs :: more
  | p :: rest => p :: mergeLiterals rest

/-- Patterns one after another, as they are. -/
def chain : List Pattern → Pattern
  | [] => empty
  | [p] => p
  | p :: q :: rest => sequence p (chain (q :: rest))

/-- Patterns one after another. -/
def concat (ps : List Pattern) : Pattern := chain (mergeLiterals (ps.flatMap factors))

@[simp] theorem concat_nil : concat [] = empty := rfl

/-- A chain reaches what its parts reach one after another. -/
theorem reach_chain (text : Array Char) (ps : List Pattern) (starts : List Nat) :
    (chain ps).reach text starts = ps.foldl (fun starts p => p.reach text starts) starts := by
  induction ps generalizing starts with
  | nil => rfl
  | cons p rest ih =>
    cases rest with
    | nil => rfl
    | cons q rest => rw [chain, reach_sequence, ih]; rfl

/-- Merging literals changes nothing. -/
theorem foldl_reach_mergeLiterals (text : Array Char) (ps : List Pattern) (starts : List Nat) :
    (mergeLiterals ps).foldl (fun starts p => p.reach text starts) starts =
      ps.foldl (fun starts p => p.reach text starts) starts := by
  induction ps generalizing starts with
  | nil => rfl
  | cons p rest ih =>
    cases p with
    | literal cs =>
      have h := ih ((literal cs).reach text starts)
      rw [mergeLiterals, List.foldl_cons, ← h]
      split
      next ds more heq => simp [heq, reach, List.foldl_append]
      next => rfl
    | _ => simp [mergeLiterals, ih]

/-- The parts of a pattern reach what it reaches. -/
theorem foldl_reach_factors (text : Array Char) (p : Pattern) (starts : List Nat) :
    p.factors.foldl (fun starts p => p.reach text starts) starts = p.reach text starts := by
  induction p generalizing starts with
  | sequence a b _ ihb => simp [factors, ihb]
  | _ => rfl

/-- Patterns one after another reach what they reach one after another. -/
theorem reach_concat (text : Array Char) (ps : List Pattern) (starts : List Nat) :
    (concat ps).reach text starts = ps.foldl (fun starts p => p.reach text starts) starts := by
  rw [concat, reach_chain, foldl_reach_mergeLiterals]
  induction ps generalizing starts with
  | nil => rfl
  | cons p rest ih => rw [List.flatMap_cons, List.foldl_append, foldl_reach_factors, ih]; rfl

/-! ## Choices -/

/-- The alternatives of a pattern. -/
def branches : Pattern → List Pattern
  | choice a b => a :: b.branches
  | p => [p]

/-- One of some patterns, as they are. -/
def choose : List Pattern → Pattern
  | [] => oneOf []
  | [p] => p
  | p :: q :: rest => choice p (choose (q :: rest))

/-- The only character of a literal. -/
def asChar? : Pattern → Option Char
  | literal [c] => some c
  | _ => none

/-- The set of a pattern for one character of a set. -/
def asSet? : Pattern → Option CodeRanges
  | oneOf set => some set
  | _ => none

/-- The set of all characters, if the patterns are single characters or sets. -/
def joinedSet? (ps : List Pattern) : Option CodeRanges :=
  match ps.mapM asChar? with
  | some cs => some (.unions (cs.map CodeRanges.single))
  | none => (ps.mapM asSet?).map CodeRanges.unions

/-- One of some alternatives, or one character if that is what all of them are. -/
def anyOf (ps : List Pattern) : Pattern :=
  let alternatives := ps.flatMap branches
  match joinedSet? alternatives with
  | some set => ofSet set
  | none => choose alternatives

/-- The start that two lists have in common. -/
def commonStart : List Pattern → List Pattern → List Pattern
  | p :: ps, q :: qs => if p = q then p :: commonStart ps qs else []
  | _, _ => []

/-- The parts with which all alternatives start; an alternative of one part alone has none. -/
def sharedFactors : List Pattern → List Pattern
  | [] => []
  | p :: rest =>
    let parts := (p :: rest).map factors
    if parts.any fun fs => decide (fs.length < 2) then []
    else (parts.tail).foldl commonStart p.factors

/-- One of two or more patterns.  What all alternatives start with stands before the choice. -/
def alternation (ps : List Pattern) : Pattern :=
  let alternatives := ps.flatMap branches
  match joinedSet? alternatives, sharedFactors alternatives with
  | none, p :: shared =>
    let rest := alternatives.map fun q => concat (q.factors.drop (shared.length + 1))
    concat (p :: shared ++ [anyOf rest])
  | _, _ => anyOf alternatives

/-! ## Repetitions -/

/-- At least and at most so many matches of a pattern.  What is always empty is repeated at most
once. -/
def repeated (p : Pattern) (least : Nat) (most : Option Nat) : Pattern :=
  let least := if p.isEmptyOnly then min least 1 else least
  let most := if p.isEmptyOnly then some (min (most.getD 1) 1) else most
  if least = 0 ∧ most = some 0 then empty
  else if least = 1 ∧ most = some 1 then p
  else repetition p least most

/-- No repetition at all is empty. -/
@[simp] theorem repeated_zero (p : Pattern) : repeated p 0 (some 0) = empty := by
  simp [repeated]

end SqlBuilder.Pattern
