import SqlBuilder.Proofs.Scanner
import SqlBuilder.Text.Hexadecimal

/-! # The grammar of literals

A text literal stands in single quotes.  Between them every character is one of the text or part of
an escape, as the dialect has them (`TextEscape.Spells`), and a quote that is not doubled ends the
literal (`Dialect.StartsWithText`).  Two literals at the start of the same SQL text are the same
(`TextEscape.Spells.unique`), so the literal of a text can be read in one way only: as this text, up
to its own end.  The literal of bytes is their upper-case hexadecimal digits between two marks that
the dialect fixes, and the digits tell the bytes (`literals_are_read_back`). -/

namespace SqlBuilder

/-! ## Texts -/

/-- What a backslash and a second character stand for.  In front of the two characters that are
wildcards of patterns the backslash stays. -/
def escapeMeaning (c : Char) : List Char :=
  if c = '%' ∨ c = '_' then ['\\', c] else [backslashMeaning c]

/-- **The characters between single quotes that stand for a text.** -/
inductive TextEscape.Spells (e : TextEscape) : List Char → List Char → Prop
  | nil : Spells e [] []
  /-- A character that is neither the quote nor the start of an escape stands for itself. -/
  | plain {c : Char} {body content : List Char} (hquote : c ≠ singleQuote)
      (hescape : e = .backslash → c ≠ '\\') (h : Spells e body content) :
      Spells e (c :: body) (c :: content)
  /-- A doubled quote stands for a quote, also where there are backslash escapes. -/
  | pair {body content : List Char} (h : Spells e body content) :
      Spells e (singleQuote :: singleQuote :: body) (singleQuote :: content)
  /-- A backslash and a second character stand for what they mean. -/
  | escaped {c : Char} {body content : List Char} (he : e = .backslash)
      (h : Spells e body content) : Spells e ('\\' :: c :: body) (escapeMeaning c ++ content)

/-- **SQL text that starts with the literal of a text**, and what is behind the literal.  A quote
behind it would be part of it. -/
def Dialect.StartsWithText (d : Dialect) (cs content k : List Char) : Prop :=
  ∃ body, d.textEscape.Spells body content ∧ cs = singleQuote :: (body ++ singleQuote :: k) ∧
    ∀ c ∈ k.head?, c ≠ singleQuote

namespace TextEscape

variable {e : TextEscape} {body body' content content' k k' : List Char}

/-- **A text literal is read in one way only.** Of two spellings that are closed and start the same
SQL text, neither is longer than the other, and both stand for the same text. -/
theorem Spells.unique (h : e.Spells body content) (h' : e.Spells body' content')
    (hk : ∀ c ∈ k.head?, c ≠ singleQuote) (hk' : ∀ c ∈ k'.head?, c ≠ singleQuote)
    (heq : body ++ singleQuote :: k = body' ++ singleQuote :: k') :
    content = content' ∧ k = k' := by
  have hbackslash : '\\' ≠ singleQuote := by decide
  -- Both spellings are taken apart from the left; how one goes on is told by its first characters.
  induction h generalizing body' content' with
  | nil =>
    cases h' with
    | nil => exact ⟨rfl, (List.cons.inj heq).2⟩
    | plain hquote => exact absurd (List.cons.inj heq).1.symm hquote
    | pair =>
      -- The first literal would end where the second has a doubled quote.
      have hbehind : k = singleQuote :: (_ ++ singleQuote :: k') := (List.cons.inj heq).2
      exact absurd rfl (hk singleQuote (by rw [hbehind]; rfl))
    | escaped => exact absurd (List.cons.inj heq).1.symm hbackslash
  | @plain c body content hquote hescape h ih =>
    cases h' with
    | nil => exact absurd (List.cons.inj heq).1 hquote
    | plain hquote' hescape' h' =>
      obtain ⟨rfl, hrest⟩ := List.cons.inj heq
      obtain ⟨rfl, hk⟩ := ih h' hrest
      exact ⟨rfl, hk⟩
    | pair => exact absurd (List.cons.inj heq).1 hquote
    | escaped he => exact absurd (List.cons.inj heq).1 (hescape he)
  | @pair body content h ih =>
    cases h' with
    | nil =>
      have hbehind : k' = singleQuote :: (body ++ singleQuote :: k) := (List.cons.inj heq).2.symm
      exact absurd rfl (hk' singleQuote (by rw [hbehind]; rfl))
    | plain hquote => exact absurd (List.cons.inj heq).1.symm hquote
    | pair h' =>
      obtain ⟨rfl, hk⟩ := ih h' (List.cons.inj (List.cons.inj heq).2).2
      exact ⟨rfl, hk⟩
    | escaped => exact absurd (List.cons.inj heq).1.symm hbackslash
  | @escaped c body content he h ih =>
    cases h' with
    | nil => exact absurd (List.cons.inj heq).1 hbackslash
    | plain _ hescape => exact absurd (List.cons.inj heq).1.symm (hescape he)
    | pair => exact absurd (List.cons.inj heq).1 hbackslash
    | escaped _ h' =>
      obtain ⟨rfl, hrest⟩ := List.cons.inj (List.cons.inj heq).2
      obtain ⟨rfl, hk⟩ := ih h' hrest
      exact ⟨rfl, hk⟩

/-- A character with its quote doubled spells itself. -/
theorem spells_doubled (cs : List Char) :
    Spells .doubling (Text.doubled singleQuote cs) cs := by
  induction cs with
  | nil => exact .nil
  | cons c rest ih =>
    rw [Text.doubled]
    by_cases h : c = singleQuote
    · subst h
      rw [if_pos rfl]
      exact .pair ih
    · rw [if_neg h]
      exact .plain h (fun he => by cases he) ih

/-- A character behind its backslash, if it needs one, spells itself. -/
theorem Spells.backslashEscape (c : Char) (h : Spells .backslash body content) :
    Spells .backslash (backslashEscape c ++ body) (c :: content) := by
  obtain ⟨letter, hescape, hmeaning, hpercent, hunderscore⟩ | ⟨hescape, hquote, hbackslash⟩ :=
    backslashEscape_cases c
  · have hletter : escapeMeaning letter = [c] := by
      rw [escapeMeaning, if_neg (not_or.2 ⟨hpercent, hunderscore⟩), hmeaning]
    have hspells : Spells .backslash ('\\' :: letter :: body) (escapeMeaning letter ++ content) :=
      .escaped rfl h
    rw [hescape, List.cons_append, List.singleton_append]
    rwa [hletter, List.singleton_append] at hspells
  · rw [hescape, List.singleton_append]
    exact .plain hquote (fun _ => hbackslash) h

/-- **What is written between the quotes spells the text.** -/
theorem spells_encode (e : TextEscape) (cs : List Char) : e.Spells (e.encode cs) cs := by
  cases e with
  | doubling => exact spells_doubled cs
  | backslash =>
    rw [encode]
    induction cs with
    | nil => exact .nil
    | cons c rest ih =>
      rw [List.flatMap_cons]
      exact ih.backslashEscape c

end TextEscape

/-- **The literal of a text is read as the text, up to its own end, and as nothing else.** -/
theorem startsWithText_iff {d : Dialect} {k : List Char} (hk : ∀ c ∈ k.head?, c ≠ singleQuote)
    (cs content rest : List Char) :
    d.StartsWithText (d.textChars cs ++ k) content rest ↔ content = cs ∧ rest = k := by
  have hliteral : d.textChars cs ++ k
      = singleQuote :: (d.textEscape.encode cs ++ singleQuote :: k) := by
    rw [Dialect.textChars, List.cons_append, List.append_assoc, List.singleton_append]
  have hspells := d.textEscape.spells_encode cs
  constructor
  · rintro ⟨body, hbody, heq, hrest⟩
    rw [hliteral] at heq
    obtain ⟨rfl, rfl⟩ := hspells.unique hbody hk hrest (List.cons.inj heq).2
    exact ⟨rfl, rfl⟩
  · rintro ⟨rfl, rfl⟩
    exact ⟨_, hspells, hliteral, hk⟩

/-! ## Bytes -/

/-- Whether a character is a digit or one of the letters `A` to `F`. -/
def isUpperHexDigit (c : Char) : Bool := c.isDigit || (decide ('A' ≤ c) && decide (c ≤ 'F'))

/-- **The bytes that upper-case hexadecimal digits write**, two digits for each, or nothing if there
is another character or a digit without a second one. -/
def bytesOfHex : List Char → Option (List UInt8)
  | [] => some []
  | [_] => none
  | high :: low :: rest =>
    if isUpperHexDigit high && isUpperHexDigit low then
      (bytesOfHex rest).map (UInt8.ofNat (Text.ofHexDigits [high, low]) :: ·)
    else none

/-- The digits of bytes write the bytes. -/
theorem bytesOfHex_hexText (bytes : List UInt8) :
    bytesOfHex (hexText bytes).toList = some bytes := by
  have hdigit : ∀ n < 16, isUpperHexDigit n.digitChar.toUpper = true ∧
      Text.hexValue n.digitChar.toUpper = n := by decide
  rw [hexText, String.toList_ofList]
  induction bytes with
  | nil => rfl
  | cons b rest ih =>
    have hlt := b.toNat_lt
    have hhigh := hdigit (b.toNat / 16) (by omega)
    have hlow := hdigit (b.toNat % 16) (by omega)
    have hbyte : Text.ofHexDigits
        [(b.toNat / 16).digitChar.toUpper, (b.toNat % 16).digitChar.toUpper] = b.toNat := by
      show 16 * (16 * 0 + Text.hexValue _) + Text.hexValue _ = b.toNat
      rw [hhigh.2, hlow.2]
      omega
    rw [List.flatMap_cons, hexByte, List.cons_append, List.cons_append, List.nil_append, bytesOfHex,
      hhigh.1, hlow.1, ih, hbyte, UInt8.ofNat_toNat]
    rfl

/-! ## Literals of both kinds -/

/-- **Literals tell their values, and end where they end.** In front of any text that does not go on
with a single quote, the literal of a text is read as exactly this text; the literal of bytes is
their upper-case hexadecimal digits between the marks of the dialect. -/
theorem literals_are_read_back (d : Dialect) (s : String) (bytes : List UInt8) {k : String}
    (hk : ∀ c ∈ k.toList.head?, c ≠ singleQuote) :
    (∀ content rest, d.StartsWithText (d.textLiteral s ++ k).toList content rest ↔
      content = s.toList ∧ rest = k.toList) ∧
    ∃ digits, d.blobLiteral bytes = d.blobMarks.1 ++ digits ++ d.blobMarks.2 ∧
      bytesOfHex digits.toList = some bytes := by
  refine ⟨fun content rest => ?_, hexText bytes, rfl, bytesOfHex_hexText bytes⟩
  rw [String.toList_append, Dialect.textLiteral, String.toList_ofList]
  exact startsWithText_iff hk s.toList content rest

/-- A text that ends in a backslash behind a quote, in front of more SQL text, and two bytes. -/
theorem literals_are_read_back_before_comment :
    Dialect.mySql.textLiteral "it's \\" = "'it\\'s \\\\'" ∧
    Dialect.mySql.blobLiteral [0x01, 0xAB] = "X'01AB'" ∧
    (∀ c ∈ "; -- '".toList.head?, c ≠ singleQuote) ∧
    (∀ content rest,
      Dialect.mySql.StartsWithText (Dialect.mySql.textLiteral "it's \\" ++ "; -- '").toList
        content rest ↔ content = "it's \\".toList ∧ rest = "; -- '".toList) ∧
    ∃ digits, Dialect.mySql.blobLiteral [0x01, 0xAB]
        = Dialect.mySql.blobMarks.1 ++ digits ++ Dialect.mySql.blobMarks.2 ∧
      bytesOfHex digits.toList = some [0x01, 0xAB] := by
  have hk : ∀ c ∈ "; -- '".toList.head?, c ≠ singleQuote := by
    intro c hc
    obtain rfl : ';' = c := by simpa using hc
    decide
  exact ⟨by decide, by decide, hk, literals_are_read_back .mySql "it's \\" [0x01, 0xAB] hk⟩

end SqlBuilder
