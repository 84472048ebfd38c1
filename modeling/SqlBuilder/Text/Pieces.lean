/-! # Pieces of a text

Splitting at a separator character and cutting at its first or last occurrence.  A text has one
piece more than it has separators, so `split` never gives an empty list. -/

namespace SqlBuilder.Text

/-- The pieces between the separators, in order. -/
def splitChars (separator : Char) : List Char → List (List Char)
  | [] => [[]]
  | c :: rest =>
    if c = separator then [] :: splitChars separator rest
    else match splitChars separator rest with
      | [] => [[c]]
      | piece :: pieces => (c :: piece) :: pieces

@[simp] theorem splitChars_nil (separator : Char) : splitChars separator [] = [[]] := rfl

/-- A separator starts a new piece. -/
@[simp] theorem splitChars_separator (separator : Char) (rest : List Char) :
    splitChars separator (separator :: rest) = [] :: splitChars separator rest := by
  simp [splitChars]

/-- There is always at least one piece. -/
theorem splitChars_ne_nil (separator : Char) (cs : List Char) : splitChars separator cs ≠ [] := by
  cases cs with
  | nil => simp
  | cons c rest =>
    unfold splitChars
    split
    · simp
    · split <;> simp

/-- The pieces of a text between the separators. -/
def split (separator : Char) (s : String) : List String :=
  (splitChars separator s.toList).map String.ofList

/-- The piece after the last separator, or the whole text if there is none. -/
def lastPiece (separator : Char) (s : String) : String :=
  ((split separator s).getLast?).getD s

/-- The texts before and after the first separator, if there is one. -/
def cutFirst (separator : Char) : List Char → Option (List Char × List Char)
  | [] => none
  | c :: rest =>
    if c = separator then some ([], rest)
    else (cutFirst separator rest).map fun cut => (c :: cut.1, cut.2)

/-- The texts before and after the last separator, if there is one. -/
def cutLast (separator : Char) (cs : List Char) : Option (List Char × List Char) :=
  (cutFirst separator cs.reverse).map fun cut => (cut.2.reverse, cut.1.reverse)

/-- Remove the characters of a class at both ends. -/
def stripBoth (p : Char → Bool) (cs : List Char) : List Char :=
  ((cs.dropWhile p).reverse.dropWhile p).reverse

/-- Write every occurrence of one character twice. -/
def doubled (special : Char) : List Char → List Char
  | [] => []
  | c :: rest =>
    if c = special then c :: c :: doubled special rest else c :: doubled special rest

@[simp] theorem doubled_nil (special : Char) : doubled special [] = [] := rfl

end SqlBuilder.Text
