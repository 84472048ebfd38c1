import SqlBuilder.Proofs.Parallel

/-! # Parallel identifiers and literals

Identifiers are parallel to themselves.  Two values have the same shape if they are equal or both
texts; the literals of such values are parallel, and their string literals hold exactly the contents
that `Dialect.literalTexts` lists: a text itself, the digits of bytes, the digits of a timestamp. -/

namespace SqlBuilder

variable {d : Dialect} {P : String → String → Prop}

/-! ## Identifiers -/

/-- A segment of a name is parallel to itself. -/
theorem parallel_quoteSegment (segment : String) :
    Parallel d P (d.quoteSegment segment) (d.quoteSegment segment) := by
  rw [Dialect.quoteSegment, Dialect.segmentChars]
  split
  · exact .plain (by decide)
  · exact ⟨_, _, Dialect.scansAs_quoteChars _, Dialect.scansAs_quoteChars _, .cons (.name _) .nil⟩

/-- **A name is parallel to itself**, whatever characters it has. -/
theorem parallel_identifier (name : String) :
    Parallel d P (d.identifier name) (d.identifier name) := by
  rw [Dialect.identifier]
  refine .intercalate (by decide) (by decide) (List.forall₂_same.2 fun s hs => ?_)
  obtain ⟨segment, -, rfl⟩ := List.mem_map.1 hs
  exact parallel_quoteSegment segment

/-- An alias is parallel to itself. -/
theorem parallel_aliasName (name : String) :
    Parallel d P (d.aliasName name) (d.aliasName name) := parallel_quoteSegment name

/-- A table is parallel to itself. -/
theorem parallel_tableRef (t : TableRef) : Parallel d P (t.render d) (t.render d) := by
  have hplain : IsPlain d.aliasKeyword := by cases d <;> decide
  have hne : d.aliasKeyword ≠ "" := by cases d <;> decide
  rw [TableRef.render]
  split
  · exact (parallel_identifier _).glue hplain hne (parallel_aliasName _)
  · exact parallel_identifier _

/-! ## Values of the same shape -/

/-- **Two values that differ at most in the characters of a text.** SQL text that is put into a
statement as it is has no such partner. -/
inductive Value.SameShape : Value → Value → Prop
  | null : SameShape .null .null
  | bool (b : Bool) : SameShape (.bool b) (.bool b)
  | int (n : Int64) : SameShape (.int n) (.int n)
  | float (x : Float) : SameShape (.float x) (.float x)
  | text (s s' : String) : SameShape (.text s) (.text s')
  | blob (bytes : List UInt8) : SameShape (.blob bytes) (.blob bytes)
  | timestamp (t : Timestamp) : SameShape (.timestamp t) (.timestamp t)

/-- **What the string literals hold that a dialect writes for a value**, in order. -/
def Dialect.literalTexts (d : Dialect) : Value → List String
  | .text s => [s]
  | .blob bytes =>
    match d with
    | .msSql => []
    | .postgreSql => ["\\x" ++ hexText bytes]
    | _ => [hexText bytes]
  | .timestamp t =>
    match d with
    | .msSql => [t.dateAndTime "T"]
    | .oracle => [t.dateAndTime " ", "YYYY-MM-DD HH24:MI:SS"]
    | _ => [t.dateAndTime " "]
  | _ => []

/-- The text literals of related texts are parallel. -/
theorem parallel_textLiteral {s s' : String} (h : P s s') :
    Parallel d P (d.textLiteral s) (d.textLiteral s') :=
  ⟨_, _, Dialect.scansAs_textLiteral s, Dialect.scansAs_textLiteral s', .cons (.string h) .nil⟩

/-- Characters without the doubled one stay as they are. -/
theorem doubled_of_not_mem {special : Char} {cs : List Char} (h : special ∉ cs) :
    Text.doubled special cs = cs := by
  induction cs with
  | nil => rfl
  | cons c rest ih =>
    rw [List.mem_cons, not_or] at h
    rw [Text.doubled, if_neg (Ne.symm h.1), ih h.2]

/-- A plain character needs no backslash. -/
theorem backslashEscape_of_isPlainChar {c : Char} (h : isPlainChar c = true) :
    backslashEscape c = [c] := by
  have hne : ∀ x, isPlainChar x = false → c ≠ x := by
    rintro x hx rfl
    exact absurd h (by simp [hx])
  rw [backslashEscape, if_neg (hne _ (by decide)), if_neg (hne _ (by decide)),
    if_neg (hne _ (by decide)), if_neg (hne _ (by decide)), if_neg (hne _ (by decide)),
    if_neg (hne _ (by decide))]

/-- A plain text needs no protection in a literal. -/
theorem encode_of_isPlain {s : String} (h : IsPlain s) (e : TextEscape) :
    e.encode s.toList = s.toList := by
  cases e with
  | doubling => exact doubled_of_not_mem fun hmem => absurd (h _ hmem) (by decide)
  | backslash =>
    rw [IsPlain] at h
    rw [TextEscape.encode]
    generalize s.toList = cs at h
    induction cs with
    | nil => rfl
    | cons c rest ih =>
      rw [List.flatMap_cons, backslashEscape_of_isPlainChar (h c List.mem_cons_self),
        ih fun x hx => h x (List.mem_cons_of_mem c hx), List.singleton_append]

/-- A text in quotes that needs no protection is parallel to itself between plain texts. -/
theorem parallel_quoted {s a b : String} (hs : d.textEscape.encode s.toList = s.toList)
    (hP : P s s) (ha : IsPlain a) (hb : IsPlain b) :
    Parallel d P (a ++ ("'" ++ s ++ "'") ++ b) (a ++ ("'" ++ s ++ "'") ++ b) := by
  have htext : d.textLiteral s = "'" ++ s ++ "'" := by
    apply String.toList_inj.1
    simp [Dialect.textLiteral, Dialect.textChars, hs, singleQuote]
  rw [← htext]
  exact ((parallel_textLiteral hP).plain_append ha).append_plain hb

/-! ## Literals -/

/-- Hexadecimal digits are plain. -/
theorem isPlain_hexText (bytes : List UInt8) : IsPlain (hexText bytes) := by
  have hdigit : ∀ n < 16, isPlainChar n.digitChar.toUpper = true := by decide
  intro c hc
  rw [hexText, String.toList_ofList] at hc
  obtain ⟨b, -, hb⟩ := List.mem_flatMap.1 hc
  have hlt := b.toNat_lt
  simp only [hexByte, List.mem_cons, List.not_mem_nil, or_false] at hb
  rcases hb with rfl | rfl
  · exact hdigit _ (by omega)
  · exact hdigit _ (by omega)

/-- Where the string literal of a byte literal stands: between two plain texts. -/
theorem blobLiteral_eq (d : Dialect) (hd : d ≠ .msSql) (bytes : List UInt8) :
    ∃ s before after, d.literalTexts (.blob bytes) = [s] ∧ IsPlain before ∧ IsPlain after ∧
      d.textEscape.encode s.toList = s.toList ∧
      d.blobLiteral bytes = before ++ ("'" ++ s ++ "'") ++ after := by
  have hhex := isPlain_hexText bytes
  cases d
  case msSql => exact absurd rfl hd
  case postgreSql =>
    -- The backslash is not plain, but the dialect protects a quote by doubling it only.
    have hmem : singleQuote ∉ ("\\x" ++ hexText bytes).toList := by
      rw [String.toList_append, List.mem_append, not_or]
      exact ⟨by decide, fun hmem => absurd (hhex _ hmem) (by decide)⟩
    exact ⟨"\\x" ++ hexText bytes, "", "::bytea", rfl, by decide, by decide,
      doubled_of_not_mem hmem,
      String.toList_inj.1 (by simp [Dialect.blobLiteral, Dialect.blobMarks])⟩
  case oracle =>
    exact ⟨hexText bytes, "HEXTORAW(", ")", rfl, by decide, by decide, encode_of_isPlain hhex _,
      String.toList_inj.1 (by simp [Dialect.blobLiteral, Dialect.blobMarks])⟩
  case db2 =>
    exact ⟨hexText bytes, "BX", "", rfl, by decide, by decide, encode_of_isPlain hhex _,
      String.toList_inj.1 (by simp [Dialect.blobLiteral, Dialect.blobMarks])⟩
  all_goals
    exact ⟨hexText bytes, "X", "", rfl, by decide, by decide, encode_of_isPlain hhex _,
      String.toList_inj.1 (by simp [Dialect.blobLiteral, Dialect.blobMarks])⟩

/-- A byte literal is parallel to itself. -/
theorem parallel_blobLiteral {bytes : List UInt8}
    (h : ∀ s ∈ d.literalTexts (.blob bytes), P s s) :
    Parallel d P (d.blobLiteral bytes) (d.blobLiteral bytes) := by
  by_cases hd : d = .msSql
  · -- A hexadecimal number without quotes.
    subst hd
    exact .plain (by simp [Dialect.blobLiteral, Dialect.blobMarks, isPlain_hexText,
      show IsPlain "0x" by decide])
  · obtain ⟨s, before, after, htexts, hbefore, hafter, hs, htext⟩ := blobLiteral_eq d hd bytes
    rw [htext]
    exact parallel_quoted hs (h s (by simp [htexts])) hbefore hafter

/-- A timestamp literal is parallel to itself. -/
theorem parallel_timestampLiteral {t : Timestamp}
    (h : ∀ s ∈ d.literalTexts (.timestamp t), P s s) :
    Parallel d P (d.timestampLiteral t) (d.timestampLiteral t) := by
  have hblank : ∀ e : TextEscape,
      e.encode (t.dateAndTime " ").toList = (t.dateAndTime " ").toList :=
    encode_of_isPlain (isPlain_dateAndTime _ (by decide))
  have hletter : ∀ e : TextEscape,
      e.encode (t.dateAndTime "T").toList = (t.dateAndTime "T").toList :=
    encode_of_isPlain (isPlain_dateAndTime _ (by decide))
  have hplain : ∀ {s a : String}, d.textEscape.encode s.toList = s.toList → P s s →
      IsPlain a → Parallel d P (a ++ ("'" ++ s ++ "'")) (a ++ ("'" ++ s ++ "'")) := by
    intro s a hs hP ha
    simpa using parallel_quoted hs hP ha isPlain_empty
  cases d
  case mariaDb | mySql | sqlite => exact parallel_textLiteral (h _ List.mem_cons_self)
  case msSql =>
    have hlit := hplain (a := "") (hletter _) (h _ List.mem_cons_self) (by decide)
    rwa [String.empty_append] at hlit
  case oracle =>
    -- The pattern of the timestamp is a string literal of its own.
    have hlit := hplain (a := "TO_TIMESTAMP(") (hblank _) (h _ List.mem_cons_self) (by decide)
    have hpattern := (hplain (s := "YYYY-MM-DD HH24:MI:SS") (a := "")
      (encode_of_isPlain (by decide) _) (h _ (List.mem_cons_of_mem _ List.mem_cons_self))
      (by decide)).append_plain (p := ")") (by decide)
    have hboth := hlit.glue (p := ", ") (by decide) (by decide) hpattern
    have htext : "TO_TIMESTAMP(" ++ ("'" ++ t.dateAndTime " " ++ "'") ++ ", "
        ++ ("" ++ ("'" ++ "YYYY-MM-DD HH24:MI:SS" ++ "'") ++ ")")
        = Dialect.oracle.timestampLiteral t := by
      have hassoc : ∀ a q s c t : String,
          a ++ (q ++ s ++ q) ++ c ++ t = (a ++ q) ++ s ++ (q ++ (c ++ t)) := by
        intro a q s c t
        simp only [String.append_assoc]
      rw [hassoc]
      exact congrArg₂ (· ++ t.dateAndTime " " ++ ·) (by decide) (by decide)
    rwa [htext] at hboth
  all_goals
    have hlit := hplain (a := "TIMESTAMP ") (hblank _) (h _ List.mem_cons_self) (by decide)
    rwa [← String.append_assoc, ← String.append_assoc] at hlit

/-- The literal of a number is plain. -/
theorem isPlain_floatLiteral (x : Float) : IsPlain (Dialect.floatLiteral x) :=
  .ite (Decimal.isPlain_render _ x) (by decide)

/-- **The literals of two values of the same shape are parallel**, up to the contents of their
string literals. -/
theorem parallel_literal {v v' : Value} (hv : v.SameShape v')
    (h : List.Forall₂ P (d.literalTexts v) (d.literalTexts v')) :
    Parallel d P (d.literal v) (d.literal v') := by
  cases hv with
  | null => exact .plain (by simp [show IsPlain "NULL" by decide])
  | bool b => exact .plain (by cases d <;> cases b <;> decide)
  | int n => exact .plain (isPlain_toString_int _)
  | float x => exact .plain (isPlain_floatLiteral x)
  | text s s' => exact parallel_textLiteral (List.forall₂_cons.1 h).1
  | blob bytes => exact parallel_blobLiteral (List.forall₂_same.1 h)
  | timestamp t => exact parallel_timestampLiteral (List.forall₂_same.1 h)

end SqlBuilder
