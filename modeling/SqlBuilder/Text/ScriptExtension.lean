import SqlBuilder.Text.Script

/-! # Characters that several scripts use

A character of one script may be used in others too.  The extended set of a script holds its own
characters and those; characters that are listed so are not in the extended sets of `Common` and
`Inherited`. -/

namespace SqlBuilder.Text

/-- The scripts with characters of other scripts, or shared ones, that they use. -/
def sharedCharacters : List NamedSet :=
  [⟨["Adlam"],
    .ofLines ["61F 640 204F 2E41"]⟩,
  ⟨["Arabic"],
    .ofLines ["60C 61B 61F 640 64B-655 670 204F 2E41 FD3E-FD3F 102E0-102FB"]⟩,
  ⟨["Armenian"],
    .ofLines ["308"]⟩,
  ⟨["Avestan"],
    .ofLines ["B7 2E30-2E31"]⟩,
  ⟨["Bengali"],
    .ofLines ["2BC 951-952 964-965 1CD0 1CD2 1CD5-1CD6 1CD8 1CE1 1CEA 1CED 1CF2 1CF5-1CF7 A8F1"]⟩,
  ⟨["Bopomofo"],
    .ofLines ["2C7 2C9-2CB 2D9 3001-3003 3008-3011 3013-301F 302A-302D 3030 3037 30FB FE45-FE46",
      "FF61-FF65"]⟩,
  ⟨["Buginese"],
    .ofLines ["A9CF"]⟩,
  ⟨["Buhid"],
    .ofLines ["1735-1736"]⟩,
  ⟨["Carian"],
    .ofLines ["B7 205A 205D 2E31"]⟩,
  ⟨["Caucasian_Albanian"],
    .ofLines ["304 331 35E"]⟩,
  ⟨["Chakma"],
    .ofLines ["9E6-9EF 1040-1049"]⟩,
  ⟨["Cherokee"],
    .ofLines ["300-302 304 30B-30C 323-324 330-331"]⟩,
  ⟨["Coptic"],
    .ofLines ["B7 300 304-305 307 374-375 2E17 102E0-102FB"]⟩,
  ⟨["Cypriot"],
    .ofLines ["10100-10102 10107-10133 10137-1013F"]⟩,
  ⟨["Cypro_Minoan"],
    .ofLines ["10100-10101"]⟩,
  ⟨["Cyrillic"],
    .ofLines ["2BC 300-302 304-308/2 30B 311 485-486 1DF8 2E43"]⟩,
  ⟨["Devanagari"],
    .ofLines ["2BC 951-952 964-965 1CD0-1CF6 1CF8-1CF9 20F0 A830-A839"]⟩,
  ⟨["Dogra"],
    .ofLines ["964-96F A830-A839"]⟩,
  ⟨["Duployan"],
    .ofLines ["B7 307-308 30A 323-324 2E3C 1BCA0-1BCA3"]⟩,
  ⟨["Elbasan"],
    .ofLines ["B7 305"]⟩,
  ⟨["Ethiopic"],
    .ofLines ["30E"]⟩,
  ⟨["Garay"],
    .ofLines ["60C 61B 61F"]⟩,
  ⟨["Georgian"],
    .ofLines ["B7 589 10FB 205A 2E31"]⟩,
  ⟨["Glagolitic"],
    .ofLines ["B7 303 305 484 487 589 10FB 205A 2E43 A66F"]⟩,
  ⟨["Gothic"],
    .ofLines ["B7 304-305 308 331"]⟩,
  ⟨["Grantha"],
    .ofLines ["951-952 964-965 BE6-BF3 1CD0 1CD2-1CD3 1CF2-1CF4 1CF8-1CF9 20F0 1133B",
      "11FD0-11FD1 11FD3"]⟩,
  ⟨["Greek"],
    .ofLines ["B7 300-301 304-308/2 313 342 345 374 1DC0-1DC1 205D"]⟩,
  ⟨["Gujarati"],
    .ofLines ["951-952 964-965 A830-A839"]⟩,
  ⟨["Gunjala_Gondi"],
    .ofLines ["B7 964-965"]⟩,
  ⟨["Gurmukhi"],
    .ofLines ["951-952 964-965 A830-A839"]⟩,
  ⟨["Gurung_Khema"],
    .ofLines ["965"]⟩,
  ⟨["Han"],
    .ofLines ["B7 2FF0-2FFF 3001-3003 3006 3008-3011 3013-301F 302A-302D 3030 3037 303C-303F",
      "30FB 3190-319F 31C0-31E5 31EF 3220-3247 3280-32B0 32C0-32CB 32FF 3358-3370",
      "337B-337F 33E0-33FE A700-A707 FE45-FE46 FF61-FF65 1D360-1D371 1F250-1F251"]⟩,
  ⟨["Hangul"],
    .ofLines ["3001-3003 3008-3011 3013-301F 3030 3037 30FB FE45-FE46 FF61-FF65"]⟩,
  ⟨["Hanifi_Rohingya"],
    .ofLines ["60C 61B 61F 640 6D4"]⟩,
  ⟨["Hanunoo"],
    .ofLines ["1735-1736"]⟩,
  ⟨["Hebrew"],
    .ofLines ["307-308"]⟩,
  ⟨["Hiragana"],
    .ofLines ["3001-3003 3008-3011 3013-301F 3030-3035 3037 303C-303D 3099-309C 30A0 30FB-30FC",
      "FE45-FE46 FF61-FF65 FF70 FF9E-FF9F"]⟩,
  ⟨["Javanese"],
    .ofLines ["A9CF"]⟩,
  ⟨["Kaithi"],
    .ofLines ["966-96F 2E31 A830-A839"]⟩,
  ⟨["Kannada"],
    .ofLines ["951-952 964-965 1CD0 1CD2-1CD3 1CDA 1CF2 1CF4 A830-A835"]⟩,
  ⟨["Katakana"],
    .ofLines ["305 323 3001-3003 3008-3011 3013-301F 3030-3035 3037 303C-303D 3099-309C 30A0",
      "30FB-30FC FE45-FE46 FF61-FF65 FF70 FF9E-FF9F"]⟩,
  ⟨["Kayah_Li"],
    .ofLines ["A92E"]⟩,
  ⟨["Khojki"],
    .ofLines ["AE6-AEF A830-A839"]⟩,
  ⟨["Khudawadi"],
    .ofLines ["964-965 A830-A839"]⟩,
  ⟨["Latin"],
    .ofLines ["B7 2BC 2C7 2C9-2CB 2CD 2D7 2D9 300-30E 310-311 313 323-325 32D-32E 330-331 358",
      "35E 363-36F 485-486 951-952 10FB 1DF8 202F 20F0 2E17 A700-A707 A92E"]⟩,
  ⟨["Limbu"],
    .ofLines ["965"]⟩,
  ⟨["Linear_A"],
    .ofLines ["10107-10133"]⟩,
  ⟨["Linear_B"],
    .ofLines ["10100-10102 10107-10133 10137-1013F"]⟩,
  ⟨["Lisu"],
    .ofLines ["2BC 2CD 300A-300B"]⟩,
  ⟨["Lycian"],
    .ofLines ["205A"]⟩,
  ⟨["Lydian"],
    .ofLines ["B7 2E31"]⟩,
  ⟨["Mahajani"],
    .ofLines ["B7 964-96F A830-A839"]⟩,
  ⟨["Malayalam"],
    .ofLines ["951-952 964-965 1CDA 1CF2 A830-A832"]⟩,
  ⟨["Mandaic"],
    .ofLines ["640"]⟩,
  ⟨["Manichaean"],
    .ofLines ["640"]⟩,
  ⟨["Masaram_Gondi"],
    .ofLines ["964-965"]⟩,
  ⟨["Meroitic_Hieroglyphs"],
    .ofLines ["205D"]⟩,
  ⟨["Modi"],
    .ofLines ["A830-A839"]⟩,
  ⟨["Mongolian"],
    .ofLines ["1802-1803 1805 202F 3001-3002 3008-300B"]⟩,
  ⟨["Multani"],
    .ofLines ["A66-A6F"]⟩,
  ⟨["Myanmar"],
    .ofLines ["A92E"]⟩,
  ⟨["Nandinagari"],
    .ofLines ["951 964-965 CE6-CEF 1CE9 1CF2 1CFA A830-A835"]⟩,
  ⟨["Newa"],
    .ofLines ["951-952 1CD5 1CD7-1CD8 1CE2 1CE9-1CED/2"]⟩,
  ⟨["Nko"],
    .ofLines ["60C 61B 61F FD3E-FD3F"]⟩,
  ⟨["Ol_Onal"],
    .ofLines ["964-965"]⟩,
  ⟨["Old_Hungarian"],
    .ofLines ["205A 205D 2E31 2E41"]⟩,
  ⟨["Old_Permic"],
    .ofLines ["B7 300 306-308 313 483"]⟩,
  ⟨["Old_Turkic"],
    .ofLines ["205A 2E30"]⟩,
  ⟨["Old_Uyghur"],
    .ofLines ["640 10AF2"]⟩,
  ⟨["Oriya"],
    .ofLines ["951-952 964-965 1CDA 1CF2"]⟩,
  ⟨["Osage"],
    .ofLines ["301 304 30B 358"]⟩,
  ⟨["Phags_Pa"],
    .ofLines ["1802-1803 1805 202F 3002"]⟩,
  ⟨["Psalter_Pahlavi"],
    .ofLines ["640"]⟩,
  ⟨["Runic"],
    .ofLines ["16EB-16ED"]⟩,
  ⟨["Samaritan"],
    .ofLines ["2E31"]⟩,
  ⟨["Sharada"],
    .ofLines ["951 1CD7 1CD9 1CDC-1CDD 1CE0 1CEA 1CED A830-A835 A838"]⟩,
  ⟨["Shavian"],
    .ofLines ["B7"]⟩,
  ⟨["Sinhala"],
    .ofLines ["964-965 1CF2"]⟩,
  ⟨["Sogdian"],
    .ofLines ["640"]⟩,
  ⟨["Sunuwar"],
    .ofLines ["300-301 303 30D 310 32D 331"]⟩,
  ⟨["Syloti_Nagri"],
    .ofLines ["964-965 9E6-9EF"]⟩,
  ⟨["Syriac"],
    .ofLines ["303-304 307-308 30A 323-325 32D-32E 330-331 60C 61B-61C 61F 640 64B-655 670 1DF8",
      "1DFA"]⟩,
  ⟨["Tagalog"],
    .ofLines ["1735-1736"]⟩,
  ⟨["Tagbanwa"],
    .ofLines ["1735-1736"]⟩,
  ⟨["Tai_Le"],
    .ofLines ["300-301 307-308 30C 1040-1049"]⟩,
  ⟨["Takri"],
    .ofLines ["964-965 A830-A839"]⟩,
  ⟨["Tamil"],
    .ofLines ["951-952 964-965 1CDA A8F3 11301 11303 1133B-1133C"]⟩,
  ⟨["Tangut"],
    .ofLines ["2FF0-2FFF 31EF"]⟩,
  ⟨["Telugu"],
    .ofLines ["951-952 964-965 1CD5-1CD6 1CD8 1CDA 1CF2"]⟩,
  ⟨["Thaana"],
    .ofLines ["60C 61B-61C 61F 660-669 FDF2 FDFD"]⟩,
  ⟨["Thai"],
    .ofLines ["2BC 2D7 303 331"]⟩,
  ⟨["Tibetan"],
    .ofLines ["3008-300B"]⟩,
  ⟨["Tifinagh"],
    .ofLines ["302 304 306-309 323"]⟩,
  ⟨["Tirhuta"],
    .ofLines ["951-952 964-965 1CD5 1CE2 1CF2 A830-A839"]⟩,
  ⟨["Todhri"],
    .ofLines ["301 304 307 311 313 35E"]⟩,
  ⟨["Toto"],
    .ofLines ["2BC"]⟩,
  ⟨["Tulu_Tigalari"],
    .ofLines ["CE6-CEF 1CF2 1CF4 A830-A835 A8F1"]⟩,
  ⟨["Yezidi"],
    .ofLines ["60C 61B 61F 660-669"]⟩,
  ⟨["Yi"],
    .ofLines ["3001-3002 3008-3011 3014-301B 30FB FF61-FF65"]⟩]

/-- All characters that scripts other than their own use. -/
def allShared : CodeRanges := .unions (sharedCharacters.map NamedSet.members)

/-- The extended set of a script. -/
def extendedScript (script : NamedSet) : CodeRanges :=
  match script.names with
  | [] => script.members
  | name :: _ =>
    if name = "Common" ∨ name = "Inherited" then .diff script.members allShared
    else .union script.members ((findSet? name sharedCharacters).getD [])

/-- The extended set of the script of a name. -/
def extendedScript? (name : String) : Option CodeRanges :=
  (scripts.find? fun s => s.names.any (sameName name)).map extendedScript

end SqlBuilder.Text
