import SqlBuilder.Text.LetterCase

/-! # Letters and numbers

Letters are the alphabetic characters, and numbers those of the categories `Nd`, `Nl` and `No`.
Both include the code points that were assigned last, which the general categories of patterns leave
out. -/

namespace SqlBuilder.Text

/-- Letters that were assigned last. -/
def latestLetters : CodeRanges :=
  .ofLines ["88F C5C CDC A7CE-A7CF A7D2 A7D4 A7F1 10940-10959 10EC5-10EC7 10EFA-10EFB 11B60-11B67",
    "11DB0-11DDB 16EA0-16EB8 16EBB-16ED3 16FF2-16FF6 187F8-187FF 18D09-18D1E 18D80-18DF2",
    "1E6C0-1E6DE 1E6E0-1E6F5 1E6FE-1E6FF 2B73A-2B73F 2CEA2-2CEAD 323B0-33479"]

/-- Numbers that were assigned last. -/
def latestNumbers : CodeRanges :=
  .ofLines ["11DE0-11DE9 16FF4-16FF6"]

/-- The letters. -/
def letterRanges : CodeRanges := .union alphabetic latestLetters

/-- The letters and numbers. -/
def letterOrNumberRanges : CodeRanges := .unions [letterRanges, numbers, latestNumbers]

/-- Whether a character is alphabetic. -/
def isLetter (c : Char) : Bool := letterRanges.contains c

/-- Whether a character is alphabetic or writes a number. -/
def isLetterOrNumber (c : Char) : Bool := letterOrNumberRanges.contains c

end SqlBuilder.Text
