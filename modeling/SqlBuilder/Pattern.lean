import SqlBuilder.Text.WordCharacter

/-! # Patterns

A pattern describes stretches of a text.  It is built from characters, sets of characters and
assertions about a position by sequence, choice and repetition.  `Pattern.reach` finds all positions
at which a match that starts at one of some positions can end; `Pattern.matchesIn` asks whether
there is a match anywhere. -/

namespace SqlBuilder

open Text (CodeRanges)

/-! ## Assertions -/

/-- A statement about a position in a text.  For those about words, `unicode` says whether the
letters of words are those of all scripts or only those of ASCII. -/
inductive Assertion where
  /-- The start of the text. -/
  | textStart
  /-- The end of the text. -/
  | textEnd
  /-- The start of a line; `returns` says whether carriage returns end lines too. -/
  | lineStart (returns : Bool)
  /-- The end of a line. -/
  | lineEnd (returns : Bool)
  /-- A place where a word starts or ends. -/
  | wordBoundary (unicode : Bool)
  /-- A place where no word starts or ends. -/
  | notWordBoundary (unicode : Bool)
  /-- A place where a word starts. -/
  | wordStart (unicode : Bool)
  /-- A place where a word ends. -/
  | wordEnd (unicode : Bool)
  /-- A place with no word character before it. -/
  | noWordBefore (unicode : Bool)
  /-- A place with no word character behind it. -/
  | noWordAfter (unicode : Bool)
deriving Repr, DecidableEq

/-- The ASCII characters of words. -/
def asciiWordRanges : CodeRanges := [(0x30, 0x39), (0x41, 0x5A), (0x5F, 0x5F), (0x61, 0x7A)]

/-- Whether there is a character, and it is one of words. -/
def isOfWord (unicode : Bool) (c : Option Char) : Bool :=
  c.any fun c => if unicode then Text.isWordCharacter c else asciiWordRanges.contains c

/-- The character before a position. -/
def charBefore (text : Array Char) (i : Nat) : Option Char :=
  if i = 0 then none else text[i - 1]?

/-- Whether an assertion holds at a position. -/
def Assertion.holds (text : Array Char) (i : Nat) (a : Assertion) : Bool :=
  let before := charBefore text i
  let after := text[i]?
  match a with
  | textStart => i == 0
  | textEnd => i == text.size
  | lineStart returns =>
    i == 0 || before == some '\n' || (returns && before == some '\r' && after != some '\n')
  | lineEnd returns =>
    i == text.size || (after == some '\n' && !(returns && before == some '\r'))
      || (returns && after == some '\r')
  | wordBoundary unicode => isOfWord unicode before != isOfWord unicode after
  | notWordBoundary unicode => isOfWord unicode before == isOfWord unicode after
  | wordStart unicode => !isOfWord unicode before && isOfWord unicode after
  | wordEnd unicode => isOfWord unicode before && !isOfWord unicode after
  | noWordBefore unicode => !isOfWord unicode before
  | noWordAfter unicode => !isOfWord unicode after

/-! ## Patterns -/

/-- A description of stretches of a text. -/
inductive Pattern where
  /-- The empty stretch. -/
  | empty
  /-- These characters one after another. -/
  | literal (cs : List Char)
  /-- One character of a set. -/
  | oneOf (set : CodeRanges)
  /-- The empty stretch at a position of which an assertion holds. -/
  | assertion (a : Assertion)
  /-- One stretch after another. -/
  | sequence (a b : Pattern)
  /-- One of two. -/
  | choice (a b : Pattern)
  /-- At least and at most so many stretches after one another. -/
  | repetition (a : Pattern) (least : Nat) (most : Option Nat)
  /-- A stretch that is remembered under a number. -/
  | group (index : Nat) (a : Pattern)
deriving Repr, DecidableEq

namespace Pattern

/-! ## Positions

Positions are kept in ascending order, each once. -/

/-- The positions of two lists. -/
def mergePositions : List Nat → List Nat → List Nat
  | [], bs => bs
  | a :: as, bs =>
    bs.takeWhile (decide <| · < a) ++
      a :: mergePositions as ((bs.dropWhile (decide <| · < a)).dropWhile (· == a))

/-- The positions of the first list that are not in the second. -/
def withoutPositions : List Nat → List Nat → List Nat
  | [], _ => []
  | a :: as, bs =>
    let rest := bs.dropWhile (decide <| · < a)
    if rest.head? = some a then withoutPositions as rest else a :: withoutPositions as rest

/-- A position is in the merged list if it is in one of the two. -/
@[simp] theorem mem_mergePositions (as bs : List Nat) (i : Nat) :
    i ∈ mergePositions as bs ↔ i ∈ as ∨ i ∈ bs := by
  induction as generalizing bs with
  | nil => simp [mergePositions]
  | cons a as ih =>
    have hb : i ∈ bs ↔ i ∈ bs.takeWhile (decide <| · < a) ∨ i ∈ bs.dropWhile (decide <| · < a) := by
      rw [← List.mem_append, List.takeWhile_append_dropWhile]
    have hr : ∀ cs : List Nat, i ∈ cs ↔
        i ∈ cs.takeWhile (· == a) ∨ i ∈ cs.dropWhile (· == a) := by
      intro cs
      rw [← List.mem_append, List.takeWhile_append_dropWhile]
    have ha : ∀ cs : List Nat, i ∈ cs.takeWhile (· == a) → i = a := by
      intro cs h
      simpa using List.all_eq_true.1 List.all_takeWhile i h
    rw [mergePositions, List.mem_append, List.mem_cons, ih, List.mem_cons, hb,
      hr (bs.dropWhile (decide <| · < a))]
    have := ha (bs.dropWhile (decide <| · < a))
    grind

/-- No position is added. -/
theorem mem_of_mem_withoutPositions {as bs : List Nat} {i : Nat}
    (h : i ∈ withoutPositions as bs) : i ∈ as := by
  induction as generalizing bs with
  | nil => simp [withoutPositions] at h
  | cons a as ih =>
    rw [withoutPositions] at h
    split at h
    · exact List.mem_cons_of_mem _ (ih h)
    · rcases List.mem_cons.1 h with rfl | h
      · exact List.mem_cons_self
      · exact List.mem_cons_of_mem _ (ih h)

/-- A position that is left out is in the second list. -/
theorem mem_withoutPositions_or_mem {as : List Nat} (bs : List Nat) {i : Nat} (h : i ∈ as) :
    i ∈ withoutPositions as bs ∨ i ∈ bs := by
  have hdrop : ∀ (bs : List Nat) (a : Nat), i ∈ bs.dropWhile (decide <| · < a) → i ∈ bs := by
    intro bs a h
    exact (List.dropWhile_sublist _).mem h
  induction as generalizing bs with
  | nil => simp at h
  | cons a as ih =>
    rw [withoutPositions]
    rcases List.mem_cons.1 h with rfl | h
    · split
      next heq => exact .inr (hdrop _ _ (List.mem_of_mem_head? heq))
      next => exact .inl List.mem_cons_self
    · rcases ih (bs.dropWhile (decide <| · < a)) h with h | h
      · split
        · exact .inl h
        · exact .inl (List.mem_cons_of_mem _ h)
      · exact .inr (hdrop _ _ h)

/-! ## Matches -/

/-- Go one character further from the positions at which a character is accepted. -/
def advance (text : Array Char) (accepts : Char → Bool) (starts : List Nat) : List Nat :=
  starts.filterMap fun i => if (text[i]?).any accepts then some (i + 1) else none

/-- Apply a step so many times; once a step changes nothing, further ones do not either. -/
def iterate (f : List Nat → List Nat) : Nat → List Nat → List Nat
  | 0, starts => starts
  | n + 1, starts => let next := f starts; if next = starts then starts else iterate f n next

/-- All positions within so many steps of the `frontier`, added to those already `seen`. -/
def spread (f : List Nat → List Nat) : Nat → List Nat → List Nat → List Nat
  | 0, seen, _ => seen
  | n + 1, seen, frontier =>
    let fresh := withoutPositions (f frontier) seen
    if fresh.isEmpty then seen else spread f n (mergePositions seen fresh) fresh

/-- The positions at which a match that starts at one of `starts` can end. -/
def reach (text : Array Char) : Pattern → List Nat → List Nat
  | empty, starts => starts
  | literal cs, starts => cs.foldl (fun starts c => advance text (· == c) starts) starts
  | oneOf set, starts => advance text set.contains starts
  | assertion a, starts => starts.filter fun i => a.holds text i
  | sequence a b, starts => b.reach text (a.reach text starts)
  | choice a b, starts => mergePositions (a.reach text starts) (b.reach text starts)
  | repetition a least most, starts =>
    let required := iterate (a.reach text) least starts
    let rounds := match most with
      | some n => min (n - least) (text.size + 1)
      | none => text.size + 1
    spread (a.reach text) rounds required required
  | group _ a, starts => a.reach text starts

@[simp] theorem reach_empty (text : Array Char) (starts : List Nat) :
    reach text empty starts = starts := rfl

@[simp] theorem reach_sequence (text : Array Char) (a b : Pattern) (starts : List Nat) :
    reach text (sequence a b) starts = b.reach text (a.reach text starts) := rfl

@[simp] theorem reach_group (text : Array Char) (index : Nat) (a : Pattern) (starts : List Nat) :
    reach text (group index a) starts = a.reach text starts := rfl

/-- A choice reaches what one of the two reaches. -/
@[simp] theorem mem_reach_choice (text : Array Char) (a b : Pattern) (starts : List Nat) (i : Nat) :
    i ∈ reach text (choice a b) starts ↔ i ∈ a.reach text starts ∨ i ∈ b.reach text starts := by
  simp [reach]

/-- An assertion keeps the positions at which it holds. -/
@[simp] theorem mem_reach_assertion (text : Array Char) (a : Assertion) (starts : List Nat)
    (i : Nat) : i ∈ reach text (assertion a) starts ↔ i ∈ starts ∧ a.holds text i = true := by
  simp [reach]

/-- Whether the pattern has a match somewhere in the text. -/
def matchesIn (p : Pattern) (text : Array Char) : Bool :=
  !(p.reach text (List.range (text.size + 1))).isEmpty

end Pattern

end SqlBuilder
