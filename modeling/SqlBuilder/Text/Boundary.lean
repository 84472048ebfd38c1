import SqlBuilder.Text.Blank
import SqlBuilder.Text.GraphemeCharacter
import SqlBuilder.Text.LetterCase
import SqlBuilder.Text.Script
import SqlBuilder.Text.Sign

/-! # Characters at boundaries

Whether there is a boundary between two characters of a text depends on the class of each.  There
are classes for the boundaries of signs, of words and of sentences. -/

namespace SqlBuilder.Text

/-- The members of a named set among some. -/
def membersOf (name : String) (sets : List NamedSet) : CodeRanges := (findSet? name sets).getD []

/-! ## Signs -/

/-- Hangul letters that start a syllable. -/
def hangulLeading : CodeRanges :=
  .ofLines ["1100-115F A960-A97C"]

/-- Vowels of Hangul, and those of other scripts that combine alike. -/
def hangulVowels : CodeRanges :=
  .ofLines ["1160-11A7 D7B0-D7C6 16D63 16D67-16D6A"]

/-- Hangul letters that end a syllable. -/
def hangulTrailing : CodeRanges :=
  .ofLines ["11A8-11FF D7CB-D7FB"]

/-- Hangul syllables without an end: every 28th of all. -/
def hangulOpen : CodeRanges :=
  (List.range 399).map fun i => (0xAC00 + 28 * i, 0xAC00 + 28 * i)

/-- Hangul syllables with an end. -/
def hangulClosed : CodeRanges := .diff [(0xAC00, 0xD7A3)] hangulOpen

/-- Consonants that stand before the letter they go with. -/
def prependedConsonants : CodeRanges :=
  .ofLines ["D4E 111C2-111C3 113D1 1193F 11941 11A3A 11A84-11A89 11D46 11F02"]

/-- Spacing marks that do not hold to the character before them. -/
def detachedVowels : CodeRanges :=
  .ofLines ["102B-102C 1038 1062-1064 1067-106D 1083 1087-108C 108F 109A-109C 1A61 1A63-1A64 AA7B",
    "AA7D 11720-11721"]

/-- Characters before which there is no boundary. -/
def extendingSigns : CodeRanges := .diff (.union graphemeExtend emojiModifiers) [(0x200D, 0x200D)]

/-- Characters behind which there is no boundary. -/
def prependedSigns : CodeRanges := .union prependedMarks prependedConsonants

/-- Controls and ignorable code points that stand alone. -/
def standaloneControls : CodeRanges :=
  .diff (.unions [lineSeparators, paragraphSeparators, controls, formatCharacters,
      .inter unassigned defaultIgnorable])
    (.unions [[(0xA, 0xA), (0xD, 0xD), (0x200C, 0x200D)], prependedSigns, graphemeExtend])

/-- Spacing marks that hold to the character before them. -/
def holdingMarks : CodeRanges :=
  .diff (.union spacingMarks [(0xE33, 0xE33), (0xEB3, 0xEB3)])
    (.union extendingSigns detachedVowels)

/-- The classes for boundaries of signs. -/
def graphemeBreaks : List NamedSet :=
  [⟨["Control", "CN"], standaloneControls⟩, ⟨["CR"], [(0xD, 0xD)]⟩, ⟨["LF"], [(0xA, 0xA)]⟩,
    ⟨["Extend", "EX"], extendingSigns⟩, ⟨["ZWJ"], [(0x200D, 0x200D)]⟩,
    ⟨["Prepend", "PP"], prependedSigns⟩, ⟨["SpacingMark", "SM"], holdingMarks⟩,
    ⟨["Regional_Indicator", "RI"], regionalIndicators⟩, ⟨["L"], hangulLeading⟩,
    ⟨["V"], hangulVowels⟩, ⟨["T"], hangulTrailing⟩, ⟨["LV"], hangulOpen⟩, ⟨["LVT"], hangulClosed⟩]

/-! ## Words -/

/-- Characters that extend the one before them in a word. -/
def extendingLetters : CodeRanges :=
  .diff (.unions [graphemeExtend, spacingMarks, emojiModifiers]) [(0x200D, 0x200D)]

/-- Format characters that are passed over. -/
def passedFormats : CodeRanges :=
  .diff formatCharacters (.unions [[(0x200C, 0x200D)], graphemeExtend, prependedMarks])

/-- Signs of other scripts that stand in Katakana words. -/
def otherKatakana : CodeRanges :=
  .ofLines ["3031-3035 309B-309C 30A0 30FC FF70"]

/-- Letters and signs of Katakana words. -/
def katakanaLetters : CodeRanges := .union (membersOf "Katakana" scripts) otherKatakana

/-- Hebrew letters. -/
def hebrewLetters : CodeRanges := .inter (membersOf "Hebrew" scripts) otherLetters

/-- Signs that count as letters of words. -/
def otherWordLetters : CodeRanges :=
  .ofLines ["2C2-2C5 2D2-2D7 2DE-2DF 2E5-2EB 2ED 2EF-2FF 55A-55C 55E 58A 5F3 70F A708-A716",
    "A720-A721 A789-A78A AB5B"]

/-- Letters of scripts that write words without blanks between them. -/
def complexLetters : CodeRanges :=
  .ofLines ["E01-E30 E32-E33 E40-E46 E81-E82 E84 E86-E8A E8C-EA3 EA5 EA7-EB0 EB2-EB3 EBD EC0-EC4",
    "EC6 EDC-EDF 1000-102A 103F 1050-1055 105A-105D 1061 1065-1066 106E-1070 1075-1081",
    "108E 1780-17B3 17D7 17DC 1950-196D 1970-1974 1980-19AB 19B0-19C9 1A20-1A54 1AA7",
    "A9E0-A9E4 A9E6-A9EF A9FA-A9FE AA60-AA76 AA7A AA7E-AAAF AAB1 AAB5-AAB6 AAB9-AABD AAC0",
    "AAC2 AADB-AADD 11700-1171A 11740-11746"]

/-- Letters of words. -/
def wordLetters : CodeRanges :=
  .diff (.union alphabetic otherWordLetters)
    (.unions [ideographs, katakanaLetters, complexLetters, membersOf "Hiragana" scripts,
      extendingLetters, hebrewLetters])

/-- Digits and number signs in words. -/
def wordNumbers : CodeRanges :=
  .diff (.unions [decimalDigitRanges, [(0x66B, 0x66B)], prependedMarks]) [(0x70F, 0x70F)]

/-- Punctuation between letters. -/
def innerLetters : CodeRanges :=
  .ofLines ["3A B7 387 55F 5F4 2027 FE13 FE55 FF1A"]

/-- Punctuation between digits. -/
def innerNumbers : CodeRanges :=
  .ofLines ["2C 3B 37E 589 60C-60D 66C 7F8 2044 FE10 FE14 FE50 FE54 FF0C FF1B"]

/-- Punctuation between letters and between digits. -/
def innerBoth : CodeRanges :=
  .ofLines ["2E 2018-2019 2024 FE52 FF07 FF0E"]

/-- Connectors of words. -/
def connectors : CodeRanges :=
  .ofLines ["5F 202F 203F-2040 2054 FE33-FE34 FE4D-FE4F FF3F"]

/-- Blanks between words. -/
def wordSpaces : CodeRanges :=
  .ofLines ["20 1680 2000-2006 2008-200A 205F 3000"]

/-- The classes for boundaries of words. -/
def wordBreaks : List NamedSet :=
  [⟨["ALetter", "LE"], wordLetters⟩, ⟨["CR"], [(0xD, 0xD)]⟩, ⟨["LF"], [(0xA, 0xA)]⟩,
    ⟨["Newline", "NL"], [(0xB, 0xC), (0x85, 0x85), (0x2028, 0x2029)]⟩,
    ⟨["Double_Quote", "DQ"], [(0x22, 0x22)]⟩, ⟨["Single_Quote", "SQ"], [(0x27, 0x27)]⟩,
    ⟨["Extend"], extendingLetters⟩, ⟨["ExtendNumLet", "EX"], connectors⟩,
    ⟨["Format", "FO"], passedFormats.diff [(0x200B, 0x200B)]⟩,
    ⟨["Hebrew_Letter", "HL"], hebrewLetters⟩, ⟨["Katakana", "KA"], katakanaLetters⟩,
    ⟨["MidLetter", "ML"], innerLetters⟩, ⟨["MidNum", "MN"], innerNumbers⟩,
    ⟨["MidNumLet", "MB"], innerBoth⟩, ⟨["Numeric", "NU"], wordNumbers⟩,
    ⟨["Regional_Indicator", "RI"], regionalIndicators⟩, ⟨["WSegSpace"], wordSpaces⟩,
    ⟨["ZWJ"], [(0x200D, 0x200D)]⟩]

/-! ## Sentences -/

/-- Georgian letters whose case does not tell where a sentence starts. -/
def uncasedGeorgian : CodeRanges :=
  .ofLines ["10D0-10FA 10FD-10FF 1C90-1CBA 1CBD-1CBF"]

/-- Letters in lower case. -/
def sentenceLower : CodeRanges := .diff lowercase (.union graphemeExtend uncasedGeorgian)

/-- Letters in upper or title case. -/
def sentenceUpper : CodeRanges := .diff (.union titlecaseLetters uppercase) uncasedGeorgian

/-- Characters that extend the one before them in a sentence. -/
def sentenceExtend : CodeRanges := .union graphemeExtend (.union spacingMarks [(0x200D, 0x200D)])

/-- Letters without case. -/
def sentenceLetters : CodeRanges :=
  .diff (.union alphabetic [(0x5F3, 0x5F3), (0x70F, 0x70F)])
    (.unions [sentenceLower, sentenceUpper, sentenceExtend])

/-- Points, which may or may not end a sentence. -/
def sentencePoints : CodeRanges :=
  .ofLines ["2E 2024 FE52 FF0E"]

/-- Quotation marks that are neither opening nor closing punctuation. -/
def otherQuotes : CodeRanges :=
  .ofLines ["22 27 275B-2760 2E00-2E01 2E06-2E08 2E0B 1F676-1F678"]

/-- Punctuation within sentences. -/
def sentenceContinue : CodeRanges :=
  .ofLines ["2C-2D 3A-3B 37E 55D 60C-60D 7F8 1802 1808 2013-2014 3001 FE10-FE11 FE13-FE14",
    "FE31-FE32 FE50-FE51 FE54-FE55 FE58 FE63 FF0C-FF0D FF1A-FF1B FF64"]

/-- The classes for boundaries of sentences. -/
def sentenceBreaks : List NamedSet :=
  [⟨["ATerm", "AT"], sentencePoints⟩, ⟨["CR"], [(0xD, 0xD)]⟩, ⟨["LF"], [(0xA, 0xA)]⟩,
    ⟨["Close", "CL"], .unions [openPunctuation, closePunctuation, initialPunctuation,
      finalPunctuation, otherQuotes]⟩,
    ⟨["Extend", "EX"], sentenceExtend⟩, ⟨["Format", "FO"], passedFormats⟩,
    ⟨["Lower", "LO"], sentenceLower⟩, ⟨["Numeric", "NU"], .union wordNumbers [(0x66C, 0x66C)]⟩,
    ⟨["OLetter", "LE"], sentenceLetters⟩, ⟨["SContinue", "SC"], sentenceContinue⟩,
    ⟨["STerm", "ST"], .diff sentenceTerminals sentencePoints⟩,
    ⟨["Sep", "SE"], [(0x85, 0x85), (0x2028, 0x2029)]⟩,
    ⟨["Sp"], .diff blankRanges [(0xA, 0xA), (0xD, 0xD), (0x85, 0x85), (0x2028, 0x2029)]⟩,
    ⟨["Upper", "UP"], sentenceUpper⟩]

end SqlBuilder.Text
