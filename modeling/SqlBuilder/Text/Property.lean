import SqlBuilder.Text.Age
import SqlBuilder.Text.Boundary
import SqlBuilder.Text.IdentifierCharacter
import SqlBuilder.Text.ScriptExtension

/-! # Properties of characters

A set of characters is named by a property alone, a general category or a script, or by a property
with one of its values. -/

namespace SqlBuilder.Text

/-- The properties that a character has or does not have. -/
def properties : List NamedSet :=
  [⟨["ASCII_Hex_Digit", "AHex"], asciiHexDigits⟩, ⟨["Alphabetic", "Alpha"], alphabetic⟩,
    ⟨["Bidi_Control", "Bidi_C"], bidiControls⟩, ⟨["Bidi_Mirrored", "Bidi_M"], mirrored⟩,
    ⟨["Case_Ignorable", "CI"], caseIgnorable⟩, ⟨["Cased"], cased⟩,
    ⟨["Changes_When_Casefolded", "CWCF"], changesWhenCasefolded⟩,
    ⟨["Changes_When_Casemapped", "CWCM"], changesWhenCasemapped⟩,
    ⟨["Changes_When_Lowercased", "CWL"], changesWhenLowercased⟩,
    ⟨["Changes_When_Titlecased", "CWT"], changesWhenTitlecased⟩,
    ⟨["Changes_When_Uppercased", "CWU"], changesWhenUppercased⟩,
    ⟨["Dash"], dashes⟩, ⟨["Default_Ignorable_Code_Point", "DI"], defaultIgnorable⟩,
    ⟨["Deprecated", "Dep"], deprecatedCharacters⟩, ⟨["Diacritic", "Dia"], diacritics⟩,
    ⟨["Emoji"], emoji⟩, ⟨["Emoji_Component", "EComp"], emojiComponents⟩,
    ⟨["Emoji_Modifier", "EMod"], emojiModifiers⟩,
    ⟨["Emoji_Modifier_Base", "EBase"], emojiModifierBases⟩,
    ⟨["Emoji_Presentation", "EPres"], emojiPresentation⟩,
    ⟨["Extended_Pictographic", "ExtPict"], pictographs⟩, ⟨["Extender", "Ext"], extenders⟩,
    ⟨["Grapheme_Base", "Gr_Base"], graphemeBase⟩, ⟨["Grapheme_Extend", "Gr_Ext"], graphemeExtend⟩,
    ⟨["Grapheme_Link", "Gr_Link"], graphemeLink⟩, ⟨["Hex_Digit", "Hex"], hexDigits⟩,
    ⟨["Hyphen"], hyphens⟩, ⟨["IDS_Binary_Operator", "IDSB"], binaryDescriptions⟩,
    ⟨["IDS_Trinary_Operator", "IDST"], ternaryDescriptions⟩,
    ⟨["IDS_Unary_Operator", "IDSU"], unaryDescriptions⟩,
    ⟨["ID_Compat_Math_Continue"], .union mathIdentifierStart mathIdentifierContinue⟩,
    ⟨["ID_Compat_Math_Start"], mathIdentifierStart⟩,
    ⟨["ID_Continue", "IDC"], identifierContinue⟩, ⟨["ID_Start", "IDS"], identifierStart⟩,
    ⟨["Ideographic", "Ideo"], ideographs⟩, ⟨["Join_Control", "Join_C"], joinControls⟩,
    ⟨["Logical_Order_Exception", "LOE"], logicalOrderExceptions⟩,
    ⟨["Lowercase", "Lower"], lowercase⟩, ⟨["Math"], math⟩,
    ⟨["Modifier_Combining_Mark", "MCM"], modifierCombiningMarks⟩,
    ⟨["Noncharacter_Code_Point", "NChar"], noncharacters⟩,
    ⟨["Other_Alphabetic", "OAlpha"], otherAlphabetic⟩,
    ⟨["Other_Default_Ignorable_Code_Point", "ODI"], otherDefaultIgnorable⟩,
    ⟨["Other_Grapheme_Extend", "OGr_Ext"], otherGraphemeExtend⟩,
    ⟨["Other_ID_Continue", "OIDC"], otherIdentifierContinue⟩,
    ⟨["Other_ID_Start", "OIDS"], otherIdentifierStart⟩,
    ⟨["Other_Lowercase", "OLower"], otherLowercase⟩, ⟨["Other_Math", "OMath"], otherMath⟩,
    ⟨["Other_Uppercase", "OUpper"], otherUppercase⟩, ⟨["Pattern_Syntax", "Pat_Syn"], patternSyntax⟩,
    ⟨["Pattern_White_Space", "Pat_WS"], patternWhiteSpace⟩,
    ⟨["Prepended_Concatenation_Mark", "PCM"], prependedMarks⟩,
    ⟨["Quotation_Mark", "QMark"], quotationMarks⟩, ⟨["Radical"], radicals⟩,
    ⟨["Regional_Indicator", "RI"], regionalIndicators⟩,
    ⟨["Sentence_Terminal", "STerm"], sentenceTerminals⟩, ⟨["Soft_Dotted", "SD"], softDotted⟩,
    ⟨["Terminal_Punctuation", "Term"], terminalPunctuation⟩,
    ⟨["Unified_Ideograph", "UIdeo"], unifiedIdeographs⟩, ⟨["Uppercase", "Upper"], uppercase⟩,
    ⟨["Variation_Selector", "VS"], variationSelectors⟩,
    ⟨["White_Space", "WSpace", "space"], blankRanges⟩,
    ⟨["XID_Continue", "XIDC"], stableIdentifierContinue⟩,
    ⟨["XID_Start", "XIDS"], stableIdentifierStart⟩]

/-- The set that one name stands for: a property, a general category or a script. -/
def namedSet? (name : String) : Option CodeRanges :=
  findSet? name properties <|> findSet? name categories <|> findSet? name scripts

/-- The set that a property and one of its values stand for. -/
def valueSet? (property value : String) : Option CodeRanges :=
  let isCalled := fun names => List.any names (sameName property)
  if isCalled ["General_Category", "gc"] then findSet? value categories
  else if isCalled ["Script", "sc"] then findSet? value scripts
  else if isCalled ["Script_Extensions", "scx"] then extendedScript? value
  else if isCalled ["Age", "age"] then assignedIn? value
  else if isCalled ["Grapheme_Cluster_Break", "GCB"] then findSet? value graphemeBreaks
  else if isCalled ["Word_Break", "WB"] then findSet? value wordBreaks
  else if isCalled ["Sentence_Break", "SB"] then findSet? value sentenceBreaks
  else none

end SqlBuilder.Text
