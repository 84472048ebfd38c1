import SqlBuilder.Literal

/-! # Scanning SQL text

The tokens of SQL text as a dialect reads it.  A single quote opens a string literal, the dialect's
opening quote an identifier, and any other character is a token of its own.  Inside quotes the
dialect's way of protecting special characters is undone, so a token holds the text that it stands
for (`TextEscape.read_encode`, `Text.readDoubled_doubled`).  Text whose last quote stays open has no
tokens. -/

namespace SqlBuilder

/-- A token of SQL text. -/
inductive SqlToken where
  /-- A string literal with the text that it stands for. -/
  | string (content : String)
  /-- A quoted identifier with the name that it stands for. -/
  | name (content : String)
  /-- A character outside of quotes. -/
  | symbol (c : Char)
deriving Repr, DecidableEq

/-! ## Reading up to a closing quote -/

namespace Text

/-- **Read a text with doubled closing quotes.** The content up to the first closing quote that is
not doubled, each pair of quotes undone, and the rest behind that quote. -/
def readDoubled (closing : Char) : List Char → Option (List Char × List Char)
  | [] => none
  | [c] => if c = closing then some ([], []) else none
  | c :: next :: rest =>
    if c = closing then
      if next = closing then (readDoubled closing rest).map fun r => (closing :: r.1, r.2)
      else some ([], next :: rest)
    else (readDoubled closing (next :: rest)).map fun r => (c :: r.1, r.2)

/-- A character other than the closing quote belongs to the content. -/
theorem readDoubled_cons_of_ne {closing c : Char} (h : c ≠ closing) (rest : List Char) :
    readDoubled closing (c :: rest) = (readDoubled closing rest).map fun r => (c :: r.1, r.2) := by
  cases rest with
  | nil => simp [readDoubled, h]
  | cons next rest => rw [readDoubled, if_neg h]

/-- A doubled closing quote is one character of the content. -/
theorem readDoubled_pair (closing : Char) (rest : List Char) :
    readDoubled closing (closing :: closing :: rest)
      = (readDoubled closing rest).map fun r => (closing :: r.1, r.2) := by
  rw [readDoubled, if_pos rfl, if_pos rfl]

/-- A closing quote ends the content if no second one is behind it. -/
theorem readDoubled_closing {closing : Char} {k : List Char} (hk : ∀ c ∈ k.head?, c ≠ closing) :
    readDoubled closing (closing :: k) = some ([], k) := by
  cases k with
  | nil => simp [readDoubled]
  | cons next rest =>
    have hnext : next ≠ closing := hk next rfl
    rw [readDoubled, if_pos rfl, if_neg hnext]

/-- **Doubling is undone by reading.** What is read from a text with doubled closing quotes, closed
before `k`, is the text itself, and `k` is left. -/
theorem readDoubled_doubled {closing : Char} {k : List Char} (hk : ∀ c ∈ k.head?, c ≠ closing)
    (cs : List Char) :
    readDoubled closing (doubled closing cs ++ closing :: k) = some (cs, k) := by
  induction cs with
  | nil => rw [doubled_nil, List.nil_append, readDoubled_closing hk]
  | cons c rest ih =>
    rw [doubled]
    by_cases h : c = closing
    · -- A quote in the text was doubled, and the pair is read back as one.
      subst h
      rw [if_pos rfl, List.cons_append, List.cons_append, readDoubled_pair, ih, Option.map_some]
    · rw [if_neg h, List.cons_append, readDoubled_cons_of_ne h, ih, Option.map_some]

/-- Reading consumes the closing quote at least. -/
theorem length_lt_of_readDoubled {closing : Char} {cs : List Char} {r : List Char × List Char}
    (h : readDoubled closing cs = some r) : r.2.length < cs.length := by
  -- A pair of quotes or another character is consumed before the rest is read.
  fun_induction readDoubled closing cs generalizing r with
  | case1 => simp at h
  | case2 =>
    obtain rfl : ([], []) = r := by simpa using h
    simp
  | case3 => simp at h
  | case4 rest ih =>
    obtain ⟨r', hr', rfl⟩ := Option.map_eq_some_iff.1 h
    have := ih hr'
    simp only [List.length_cons]
    omega
  | case5 next rest hnext =>
    obtain rfl : ([], next :: rest) = r := by simpa using h
    simp
  | case6 c next rest hc ih =>
    obtain ⟨r', hr', rfl⟩ := Option.map_eq_some_iff.1 h
    have := ih hr'
    simp only [List.length_cons] at this ⊢
    omega

end Text

/-- The character that a backslash and a second character stand for. -/
def backslashMeaning (c : Char) : Char :=
  if c = '0' then '\x00'
  else if c = 'b' then '\x08'
  else if c = 't' then '\t'
  else if c = 'n' then '\n'
  else if c = 'r' then '\r'
  else if c = 'Z' then '\x1a'
  else c

/-- **Read a text with backslash escapes.** The content up to the first single quote behind no
backslash, and the rest behind that quote. -/
def readBackslash : List Char → Option (List Char × List Char)
  | [] => none
  | [c] => if c = singleQuote then some ([], []) else none
  | c :: next :: rest =>
    if c = singleQuote then some ([], next :: rest)
    else if c = '\\' then
      (readBackslash rest).map fun r => (backslashMeaning next :: r.1, r.2)
    else (readBackslash (next :: rest)).map fun r => (c :: r.1, r.2)

/-- A single quote ends the content. -/
theorem readBackslash_closing (k : List Char) :
    readBackslash (singleQuote :: k) = some ([], k) := by
  cases k with
  | nil => simp [readBackslash]
  | cons next rest => rw [readBackslash, if_pos rfl]

/-- An escaped character belongs to the content with its meaning. -/
theorem readBackslash_escaped (c : Char) (rest : List Char) :
    readBackslash ('\\' :: c :: rest)
      = (readBackslash rest).map fun r => (backslashMeaning c :: r.1, r.2) := by
  rw [readBackslash, if_neg (by decide), if_pos rfl]

/-- A character that is neither a quote nor a backslash belongs to the content. -/
theorem readBackslash_cons {c : Char} (hq : c ≠ singleQuote) (hb : c ≠ '\\') (rest : List Char) :
    readBackslash (c :: rest) = (readBackslash rest).map fun r => (c :: r.1, r.2) := by
  cases rest with
  | nil => simp [readBackslash, hq]
  | cons next rest => rw [readBackslash, if_neg hq, if_neg hb]

/-- **How a character is escaped**: by a backslash and a letter that means the character and is no
wildcard of patterns, or not at all, if it is neither the quote nor the backslash. -/
theorem backslashEscape_cases (c : Char) :
    (∃ letter, backslashEscape c = ['\\', letter] ∧ backslashMeaning letter = c ∧
      letter ≠ '%' ∧ letter ≠ '_') ∨
    (backslashEscape c = [c] ∧ c ≠ singleQuote ∧ c ≠ '\\') := by
  unfold backslashEscape
  by_cases hb : c = '\\'
  · subst hb; exact .inl ⟨'\\', by decide⟩
  by_cases hq : c = singleQuote
  · subst hq; exact .inl ⟨singleQuote, by decide⟩
  by_cases h0 : c = '\x00'
  · subst h0; exact .inl ⟨'0', by decide⟩
  by_cases hn : c = '\n'
  · subst hn; exact .inl ⟨'n', by decide⟩
  by_cases hr : c = '\r'
  · subst hr; exact .inl ⟨'r', by decide⟩
  by_cases hz : c = '\x1a'
  · subst hz; exact .inl ⟨'Z', by decide⟩
  rw [if_neg hb, if_neg hq, if_neg h0, if_neg hn, if_neg hr, if_neg hz]
  exact .inr ⟨rfl, hq, hb⟩

/-- One escaped character is read as the character. -/
theorem readBackslash_backslashEscape (c : Char) (rest : List Char) :
    readBackslash (backslashEscape c ++ rest)
      = (readBackslash rest).map fun r => (c :: r.1, r.2) := by
  obtain ⟨letter, hescape, hmeaning, -⟩ | ⟨hescape, hquote, hbackslash⟩ := backslashEscape_cases c
  · rw [hescape, List.cons_append, List.singleton_append, readBackslash_escaped, hmeaning]
  · rw [hescape, List.singleton_append, readBackslash_cons hquote hbackslash]

/-- **Escaping is undone by reading.** What is read from an escaped text, closed before `k`, is the
text itself, and `k` is left. -/
theorem readBackslash_escape (k cs : List Char) :
    readBackslash (cs.flatMap backslashEscape ++ singleQuote :: k) = some (cs, k) := by
  induction cs with
  | nil => rw [List.flatMap_nil, List.nil_append, readBackslash_closing]
  | cons c rest ih =>
    rw [List.flatMap_cons, List.append_assoc, readBackslash_backslashEscape, ih, Option.map_some]

/-- Reading consumes the closing quote at least. -/
theorem length_lt_of_readBackslash {cs : List Char} {r : List Char × List Char}
    (h : readBackslash cs = some r) : r.2.length < cs.length := by
  fun_induction readBackslash cs generalizing r with
  | case1 => simp at h
  | case2 =>
    obtain rfl : ([], []) = r := by simpa using h
    simp
  | case3 => simp at h
  | case4 next rest =>
    obtain rfl : ([], next :: rest) = r := by simpa using h
    simp
  | case5 next rest hq ih =>
    obtain ⟨r', hr', rfl⟩ := Option.map_eq_some_iff.1 h
    have := ih hr'
    simp only [List.length_cons]
    omega
  | case6 c next rest hq hb ih =>
    obtain ⟨r', hr', rfl⟩ := Option.map_eq_some_iff.1 h
    have := ih hr'
    simp only [List.length_cons] at this ⊢
    omega

namespace TextEscape

/-- The content of a text literal whose opening quote was read, and the rest behind the literal. -/
def read : TextEscape → List Char → Option (List Char × List Char)
  | .doubling => Text.readDoubled singleQuote
  | .backslash => readBackslash

/-- **A text literal is read as its text.** Whatever the text, the literal ends at its own closing
quote, unless a further quote follows. -/
theorem read_encode (e : TextEscape) {k : List Char} (hk : ∀ c ∈ k.head?, c ≠ singleQuote)
    (cs : List Char) : e.read (e.encode cs ++ singleQuote :: k) = some (cs, k) := by
  cases e with
  | doubling => exact Text.readDoubled_doubled hk cs
  | backslash => exact readBackslash_escape k cs

/-- Reading consumes the closing quote at least. -/
theorem length_lt_of_read {e : TextEscape} {cs : List Char} {r : List Char × List Char}
    (h : e.read cs = some r) : r.2.length < cs.length := by
  cases e with
  | doubling => exact Text.length_lt_of_readDoubled h
  | backslash => exact length_lt_of_readBackslash h

end TextEscape

/-! ## The scanner -/

namespace Dialect

/-- **The tokens of SQL text in a dialect**, or nothing if a quote stays open. -/
def scan (d : Dialect) : List Char → Option (List SqlToken)
  | [] => some []
  | c :: rest =>
    if c = singleQuote then
      match _h : d.textEscape.read rest with
      | none => none
      | some r => (d.scan r.2).map (SqlToken.string (String.ofList r.1) :: ·)
    else if c = d.quotes.opening then
      match _h : Text.readDoubled d.quotes.closing rest with
      | none => none
      | some r => (d.scan r.2).map (SqlToken.name (String.ofList r.1) :: ·)
    else (d.scan rest).map (SqlToken.symbol c :: ·)
termination_by cs => cs.length
decreasing_by
  · have := TextEscape.length_lt_of_read _h
    simp only [List.length_cons]
    omega
  · have := Text.length_lt_of_readDoubled _h
    simp only [List.length_cons]
    omega
  · simp

@[simp] theorem scan_nil (d : Dialect) : d.scan [] = some [] := by rw [scan]

/-- A character that opens no quotes is a token. -/
theorem scan_symbol {d : Dialect} {c : Char} (hs : c ≠ singleQuote) (ho : c ≠ d.quotes.opening)
    (rest : List Char) : d.scan (c :: rest) = (d.scan rest).map (SqlToken.symbol c :: ·) := by
  rw [scan, if_neg hs, if_neg ho]

/-- A single quote opens a string literal. -/
theorem scan_string {d : Dialect} {rest content k : List Char}
    (h : d.textEscape.read rest = some (content, k)) :
    d.scan (singleQuote :: rest)
      = (d.scan k).map (SqlToken.string (String.ofList content) :: ·) := by
  rw [scan, if_pos rfl]
  split
  · simp_all
  · next r hr =>
    obtain rfl : (content, k) = r := by rw [h] at hr; exact Option.some.inj hr
    rfl

/-- The dialect's opening quote opens an identifier. -/
theorem scan_name {d : Dialect} {rest content k : List Char}
    (h : Text.readDoubled d.quotes.closing rest = some (content, k)) :
    d.scan (d.quotes.opening :: rest)
      = (d.scan k).map (SqlToken.name (String.ofList content) :: ·) := by
  have hne : d.quotes.opening ≠ singleQuote := by cases d <;> decide
  rw [scan, if_neg hne, if_pos rfl]
  split
  · simp_all
  · next r hr =>
    obtain rfl : (content, k) = r := by rw [h] at hr; exact Option.some.inj hr
    rfl

end Dialect

end SqlBuilder
