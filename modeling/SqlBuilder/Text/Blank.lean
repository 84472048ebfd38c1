import SqlBuilder.Text.CodeRanges

/-! # Blank characters, trimming and words

White space is the Unicode property `White_Space`.  Trimming removes it at both ends of a text;
`words` are the maximal runs of characters that are not blank. -/

namespace SqlBuilder.Text

/-- The code points with the property `White_Space`. -/
def blankRanges : CodeRanges :=
  [(0x9, 0xD), (0x20, 0x20), (0x85, 0x85), (0xA0, 0xA0), (0x1680, 0x1680), (0x2000, 0x200A),
    (0x2028, 0x2029), (0x202F, 0x202F), (0x205F, 0x205F), (0x3000, 0x3000)]

/-- Whether a character is white space. -/
def isBlank (c : Char) : Bool := blankRanges.contains c

/-- Remove the blank characters at the start. -/
def trimStart (cs : List Char) : List Char := cs.dropWhile isBlank

/-- Remove the blank characters at the end. -/
def trimEnd (cs : List Char) : List Char := (cs.reverse.dropWhile isBlank).reverse

/-- Remove the blank characters at both ends. -/
def trimChars (cs : List Char) : List Char := trimEnd (trimStart cs)

/-- A text without the blank characters at its ends. -/
def trim (s : String) : String := String.ofList (trimChars s.toList)

@[simp] theorem trimStart_nil : trimStart [] = [] := rfl

@[simp] theorem trimChars_nil : trimChars [] = [] := rfl

@[simp] theorem toList_trim (s : String) : (trim s).toList = trimChars s.toList := by
  simp [trim]

/-! ## Words -/

/-- The words of a text whose current word, read backwards, is `current`. -/
def wordsFrom (current : List Char) : List Char → List (List Char)
  | [] => if current.isEmpty then [] else [current.reverse]
  | c :: rest =>
    if isBlank c then
      if current.isEmpty then wordsFrom [] rest else current.reverse :: wordsFrom [] rest
    else wordsFrom (c :: current) rest

/-- The maximal runs of characters that are not blank, in order. -/
def words (s : String) : List String := (wordsFrom [] s.toList).map String.ofList

/-- The words of a text, separated by single spaces. -/
def singleSpaced (s : String) : String := " ".intercalate (words s)

end SqlBuilder.Text
