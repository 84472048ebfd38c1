/-! # The depth of what is written

The parts of a written pattern are nested: a group, a repetition and a bracket are one level deeper
than their content, and two or more parts beside each other one level deeper than each of them.  The
number of levels is limited. -/

namespace SqlBuilder.Pattern

/-- The greatest depth that is allowed. -/
def depthLimit : Nat := 250

/-- What a part of a text writes, and how deep it is. -/
structure Written (α : Type) where
  /-- What is written. -/
  value : α
  /-- The number of levels. -/
  depth : Nat
deriving Repr, DecidableEq

/-- The depth of parts beside each other. -/
def depthOfParts : List Nat → Nat
  | [] => 0
  | [depth] => depth
  | depth :: rest => rest.foldl max depth + 1

@[simp] theorem depthOfParts_nil : depthOfParts [] = 0 := rfl

@[simp] theorem depthOfParts_singleton (depth : Nat) : depthOfParts [depth] = depth := rfl

end SqlBuilder.Pattern
