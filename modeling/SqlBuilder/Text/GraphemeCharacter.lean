import SqlBuilder.Text.Category

/-! # Characters beside others

Some characters extend the one before them, some are there only for the layout and some select a
shape.  What is left as a sign of its own is a base. -/

namespace SqlBuilder.Text

/-- Characters that extend the one before them and take room of their own. -/
def otherGraphemeExtend : CodeRanges :=
  .ofLines ["9BE 9D7 B3E B57 BBE BD7 CC0 CC2 CC7-CC8 CCA-CCB CD5-CD6 D3E D57 DCF DDF 1715 1734",
    "1B35 1B3B 1B3D 1B43-1B44 1BAA 1BF2-1BF3 200C 302E-302F A953 A9C0 FF9E-FF9F 111C0",
    "11235 1133E 1134D 11357 113B8 113C2 113C5 113C7-113C9 113CF 114B0 114BD 115AF 116B6",
    "11930 1193D 11F41 16FF0-16FF1 1D165-1D166 1D16D-1D172 E0020-E007F"]

/-- Characters that extend the one before them. -/
def graphemeExtend : CodeRanges := .unions [nonspacingMarks, enclosingMarks, otherGraphemeExtend]

/-- Characters that are signs of their own. -/
def graphemeBase : CodeRanges :=
  .complement (.unions [others, lineSeparators, paragraphSeparators, graphemeExtend])

/-- Marks that join two consonants. -/
def graphemeLink : CodeRanges :=
  .ofLines ["94D 9CD A4D ACD B4D BCD C4D CCD D3B-D3C D4D DCA E3A EBA F84 1039-103A 1714-1715 1734",
    "17D2 1A60 1B44 1BAA-1BAB 1BF2-1BF3 2D7F A806 A82C A8C4 A953 A9C0 AAF6 ABED 10A3F",
    "11046 11070 1107F 110B9 11133-11134 111C0 11235 112EA 1134D 113CE-113D0 11442 114C2",
    "115BF 1163F 116B6 1172B 11839 1193D-1193E 119E0 11A34 11A47 11A99 11C3F 11D44-11D45",
    "11D97 11F41-11F42 1612F"]

/-- Marks that go closer to their letter than others. -/
def modifierCombiningMarks : CodeRanges :=
  .ofLines ["654-655 658 6DC 6E3 6E7-6E8 8CA-8CB 8CD-8CF 8D3 8F3"]

/-- Characters that select the shape of the one before them. -/
def variationSelectors : CodeRanges :=
  .ofLines ["180B-180D 180F FE00-FE0F E0100-E01EF"]

/-- Marks that stand before the numbers or letters they go with. -/
def prependedMarks : CodeRanges :=
  .ofLines ["600-605 6DD 70F 890-891 8E2 110BD 110CD"]

/-- Controls that join or part the letters beside them. -/
def joinControls : CodeRanges :=
  .ofLines ["200C-200D"]

/-- Controls of the direction of writing. -/
def bidiControls : CodeRanges :=
  .ofLines ["61C 200E-200F 202A-202E 2066-2069"]

/-- Ignorable code points that are neither format characters nor selectors. -/
def otherDefaultIgnorable : CodeRanges :=
  .ofLines ["34F 115F-1160 17B4-17B5 2065 3164 FFA0 FFF0-FFF8 E0000 E0002-E001F E0080-E00FF",
    "E01F0-E0FFF"]

/-- Code points that show nothing where they are not supported: those that a table lists, selectors
and format characters other than annotations, shape controls of hieroglyphs and prepended marks. -/
def defaultIgnorable : CodeRanges :=
  .diff (.unions [otherDefaultIgnorable, formatCharacters, variationSelectors])
    (.unions [[(0xFFF9, 0xFFFB), (0x13430, 0x13440)], prependedMarks])

end SqlBuilder.Text
