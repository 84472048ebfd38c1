import SqlBuilder.Text.LetterCase

/-! # Word characters

The characters that make up words: the alphabetic ones, marks, decimal digits, connecting
punctuation and the two joining controls. -/

namespace SqlBuilder.Text

/-- The code points of word characters. -/
def wordRanges : CodeRanges :=
  .unions [alphabetic, marks, decimalDigitRanges, connectorPunctuation, [(0x200C, 0x200D)]]

/-- Whether a character is one of words. -/
def isWordCharacter (c : Char) : Bool := wordRanges.contains c

end SqlBuilder.Text
