import SqlBuilder.Pattern.Automaton.CharacterSet

/-! # Automata of words

A choice between words is read by a tree of which the edges are bytes.  Words that start alike share
a path, unless a word that ends on it is listed between them: what is listed behind such a word is
tried after it, in a further chunk of edges of the same node. -/

namespace SqlBuilder.Pattern.Automaton

/-- The bytes of a text in the order in which they are read. -/
def bytesOf (direction : Direction) (cs : List Char) : List UInt8 :=
  let bytes := cs.flatMap String.utf8EncodeChar
  match direction with
  | .forward => bytes
  | .backward => bytes.reverse

/-- The words between those that end at a node. -/
def splitAtEnds : List (List UInt8) → List (List (List UInt8))
  | [] => [[]]
  | [] :: rest => [] :: splitAtEnds rest
  | word :: rest =>
    match splitAtEnds rest with
    | [] => [[word]]
    | chunk :: chunks => (word :: chunk) :: chunks

/-- The chunks of a node.  Several words that end before any other is listed count once. -/
def chunksOf : List (List UInt8) → List (List (List UInt8))
  | [] :: rest => splitAtEnds ([] :: rest.dropWhile List.isEmpty)
  | words => splitAtEnds words

/-- What follows the first byte of words, for each first byte. -/
def tailsByFirst (chunk : List (List UInt8)) : List (List (List UInt8)) :=
  (chunk.filterMap List.head?).eraseDups.map fun byte =>
    chunk.filterMap fun word => if word.head? = some byte then some word.tail else none

/-- The number of states of a node and of the nodes below it, and what is kept beside them.  The
node branches to its chunks and to the end for each word that ends there; a chunk is one state;
behind a last byte there is no further node.  The number bounds the depth. -/
def wordTree : Nat → List (List UInt8) → Tally
  | 0, _ => {}
  | n + 1, words =>
    let chunks := chunksOf words
    let groups := (chunks.filter fun chunk => !chunk.isEmpty).map tailsByFirst
    let branches := chunks.length - 1 + groups.length
    let ranges := (groups.filter fun group => decide (1 < group.length)).flatten.length
    let below := (groups.flatten.filter fun tails => !tails.all List.isEmpty).map (wordTree n)
    ⟨1 + groups.length + (below.map Tally.states).sum,
      Tally.branchSize * branches + Tally.rangeSize * ranges + (below.map Tally.beside).sum⟩

/-- Add the automaton of a choice between words. -/
def addWords (direction : Direction) (words : List (List Char)) : Tally → Option Tally :=
  let words := words.map (bytesOf direction)
  let longest := (words.map List.length).foldl max 0
  let tree := wordTree (longest + 1) words
  fun t => t.grow (1 + tree.states) tree.beside

end SqlBuilder.Pattern.Automaton
