import SqlBuilder.Text.Category

/-! # Characters of identifiers

An identifier of a programming language starts with a letter and goes on with letters, digits, marks
and connecting punctuation.  The normal forms of an identifier are identifiers if it avoids a few
characters more. -/

namespace SqlBuilder.Text

/-- Characters with a fixed meaning in pattern languages. -/
def patternSyntax : CodeRanges :=
  .ofLines ["21-2F 3A-40 5B-5E 60 7B-7E A1-A7 A9 AB-AC AE B0-B1 B6 BB BF D7 F7 2010-2027",
    "2030-203E 2041-2053 2055-205E 2190-245F 2500-2775 2794-2BFF 2E00-2E7F 3001-3003",
    "3008-3020 3030 FD3E-FD3F FE45-FE46"]

/-- White space of pattern languages. -/
def patternWhiteSpace : CodeRanges :=
  .ofLines ["9-D 20 85 200E-200F 2028-2029"]

/-- Characters that start identifiers though they are no letters. -/
def otherIdentifierStart : CodeRanges :=
  .ofLines ["1885-1886 2118 212E 309B-309C"]

/-- Characters that continue identifiers though their categories do not. -/
def otherIdentifierContinue : CodeRanges :=
  .ofLines ["B7 387 1369-1371 19DA 200C-200D 30FB FF65"]

/-- Characters that start identifiers. -/
def identifierStart : CodeRanges :=
  .diff (.unions [letters, letterNumbers, otherIdentifierStart])
    (.union patternSyntax patternWhiteSpace)

/-- Characters that continue identifiers. -/
def identifierContinue : CodeRanges :=
  .diff (.unions [identifierStart, nonspacingMarks, spacingMarks, decimalDigitRanges,
    connectorPunctuation, otherIdentifierContinue]) (.union patternSyntax patternWhiteSpace)

/-- Characters whose normal forms do not continue identifiers. -/
def unstableContinue : CodeRanges :=
  .ofLines ["37A 309B-309C FC5E-FC63 FDFA-FDFB FE70-FE7E/2"]

/-- Further characters whose normal forms do not start identifiers. -/
def unstableStart : CodeRanges :=
  .ofLines ["E33 EB3 FF9E-FF9F"]

/-- Characters that start identifiers in all normal forms. -/
def stableIdentifierStart : CodeRanges :=
  .diff identifierStart (.union unstableContinue unstableStart)

/-- Characters that continue identifiers in all normal forms. -/
def stableIdentifierContinue : CodeRanges := .diff identifierContinue unstableContinue

/-- Mathematical symbols that may start identifiers. -/
def mathIdentifierStart : CodeRanges :=
  .ofLines ["2202 2207 221E 1D6C1 1D6DB 1D6FB 1D715 1D735 1D74F 1D76F 1D789 1D7A9 1D7C3"]

/-- Mathematical signs that may continue identifiers only. -/
def mathIdentifierContinue : CodeRanges :=
  .ofLines ["B2-B3 B9 2070 2074-207E 2080-208E"]

end SqlBuilder.Text
