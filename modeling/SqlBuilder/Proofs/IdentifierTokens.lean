import SqlBuilder.Proofs.DialectMarks
import SqlBuilder.Proofs.QuotedNames

/-! # Identifiers as tokens

SQL text is scanned one token after the other (`Dialect.takeToken`, `Dialect.Reads`).  A dotted name
is written as one token for each of its segments with single dots between them, whatever text is
behind it, unless that goes on with a closing quote (`identifier_reads_segments`).  The token of a
segment is the star, or a name in the dialect's quotes that stands for the segment without blanks
at its ends and without a pair of quotes around it (`IsSegmentToken`). -/

namespace SqlBuilder

/-! ## One token after the other -/

namespace Dialect

variable {d : Dialect} {cs k : List Char} {token : SqlToken} {tokens : List SqlToken}

/-- **The first token of SQL text** and the text behind it, or nothing if a quote stays open. -/
def takeToken (d : Dialect) : List Char → Option (SqlToken × List Char)
  | [] => none
  | c :: rest =>
    if c = singleQuote then
      (d.textEscape.read rest).map fun r => (.string (String.ofList r.1), r.2)
    else if c = d.quotes.opening then
      (Text.readDoubled d.quotes.closing rest).map fun r => (.name (String.ofList r.1), r.2)
    else some (.symbol c, rest)

/-- **A text that starts with given tokens**, and what is behind them. -/
inductive Reads (d : Dialect) : List Char → List SqlToken → List Char → Prop
  | done (k : List Char) : Reads d k [] k
  | token {cs rest k : List Char} {token : SqlToken} {tokens : List SqlToken}
      (h : d.takeToken cs = some (token, rest)) (hrest : Reads d rest tokens k) :
      Reads d cs (token :: tokens) k

/-- A character that opens no quotes is a token. -/
theorem takeToken_symbol {c : Char} (hs : c ≠ singleQuote) (ho : c ≠ d.quotes.opening)
    (rest : List Char) : d.takeToken (c :: rest) = some (.symbol c, rest) := by
  rw [takeToken, if_neg hs, if_neg ho]

/-- The scanner starts with the first token. -/
theorem scan_of_takeToken (h : d.takeToken cs = some (token, k)) :
    d.scan cs = (d.scan k).map (token :: ·) := by
  cases cs with
  | nil => cases h
  | cons c rest =>
    rw [takeToken] at h
    by_cases hs : c = singleQuote
    · rw [if_pos hs, Option.map_eq_some_iff] at h
      obtain ⟨⟨content, behind⟩, hread, htoken⟩ := h
      obtain ⟨rfl, rfl⟩ := Prod.mk.inj htoken
      rw [hs, scan_string hread]
    · rw [if_neg hs] at h
      by_cases ho : c = d.quotes.opening
      · rw [if_pos ho, Option.map_eq_some_iff] at h
        obtain ⟨⟨content, behind⟩, hread, htoken⟩ := h
        obtain ⟨rfl, rfl⟩ := Prod.mk.inj htoken
        rw [ho, scan_name hread]
      · rw [if_neg ho] at h
        obtain ⟨rfl, rfl⟩ := Prod.mk.inj (Option.some.inj h)
        exact scan_symbol hs ho rest

/-- **The scanner reads these tokens first**, and then those of the text behind them. -/
theorem Reads.scan_eq (h : d.Reads cs tokens k) : d.scan cs = (d.scan k).map (tokens ++ ·) := by
  induction h with
  | done k => simp
  | token htoken _ ih =>
    rw [scan_of_takeToken htoken, ih, Option.map_map]
    rfl

end Dialect

/-! ## The token of a segment -/

/-- **What is left of a text without a pair of quotes around it**: what the quotes of some style
hold, or all of the text if it is in no quotes. -/
def IsUnwrapped (cs content : List Char) : Prop :=
  (∃ q ∈ knownQuotes, cs = q.opening :: (content ++ [q.closing])) ∨
    content = cs ∧ ∀ q ∈ knownQuotes, ∀ inner, cs ≠ q.opening :: (inner ++ [q.closing])

/-- Two styles of quotes with the same opening quote are the same. -/
theorem eq_of_mem_knownQuotes {q q' : Dialect.Quotes} (hq : q ∈ knownQuotes)
    (hq' : q' ∈ knownQuotes) (h : q.opening = q'.opening) : q = q' := by
  simp only [knownQuotes, List.mem_cons, List.not_mem_nil, or_false] at hq hq'
  rcases hq with rfl | rfl | rfl <;> rcases hq' with rfl | rfl | rfl <;>
    first | rfl | exact absurd h (by decide)

/-- A text in quotes of some style is freed of them. -/
theorem bareSegment_of_mem_knownQuotes {q : Dialect.Quotes} (hq : q ∈ knownQuotes)
    (content : List Char) : bareSegment (q.opening :: (content ++ [q.closing])) = content := by
  rw [bareSegment]
  cases hfound : knownQuotes.findSome? fun q' =>
      q'.inside (q.opening :: (content ++ [q.closing])) with
  | none =>
    have hinside := List.findSome?_eq_none_iff.1 hfound q hq
    rw [Dialect.Quotes.inside_eq_some_iff.2 rfl] at hinside
    cases hinside
  | some found =>
    obtain ⟨q', hq', hinside⟩ := List.exists_of_findSome?_eq_some hfound
    have heq := Dialect.Quotes.inside_eq_some_iff.1 hinside
    -- The opening quote tells the style of the quotes.
    obtain rfl := eq_of_mem_knownQuotes hq hq' (List.cons.inj heq).1
    exact (List.append_cancel_right (List.cons.inj heq).2).symm

/-- A text in no quotes is left as it is. -/
theorem bareSegment_of_forall_ne {cs : List Char}
    (h : ∀ q ∈ knownQuotes, ∀ inner, cs ≠ q.opening :: (inner ++ [q.closing])) :
    bareSegment cs = cs := by
  have hnone : (knownQuotes.findSome? fun q => q.inside cs) = none := by
    rw [List.findSome?_eq_none_iff]
    intro q hq
    rw [Option.eq_none_iff_forall_ne_some]
    intro inner hinside
    exact h q hq inner (Dialect.Quotes.inside_eq_some_iff.1 hinside)
  rw [bareSegment, hnone]
  rfl

/-- **One text is left of a text without its quotes.** -/
theorem isUnwrapped_iff {cs content : List Char} :
    IsUnwrapped cs content ↔ content = bareSegment cs := by
  constructor
  · rintro (⟨q, hq, rfl⟩ | ⟨rfl, hnone⟩)
    · exact (bareSegment_of_mem_knownQuotes hq content).symm
    · exact (bareSegment_of_forall_ne hnone).symm
  · rintro rfl
    by_cases hquoted : ∃ q ∈ knownQuotes, ∃ inner, cs = q.opening :: (inner ++ [q.closing])
    · obtain ⟨q, hq, inner, rfl⟩ := hquoted
      refine .inl ⟨q, hq, ?_⟩
      rw [bareSegment_of_mem_knownQuotes hq]
    · have hnone : ∀ q ∈ knownQuotes, ∀ inner, cs ≠ q.opening :: (inner ++ [q.closing]) :=
        fun q hq inner heq => hquoted ⟨q, hq, inner, heq⟩
      exact .inr ⟨bareSegment_of_forall_ne hnone, hnone⟩

/-- **The token that a segment of a name is**: the star, or a name that stands for the segment
without blanks at its ends and without a pair of quotes around it. -/
inductive IsSegmentToken (segment : String) : SqlToken → Prop
  | star (h : Text.trim segment = "*") : IsSegmentToken segment (.symbol '*')
  | name {content : String} (h : Text.trim segment ≠ "*")
      (hcontent : IsUnwrapped (Text.trim segment).toList content.toList) :
      IsSegmentToken segment (.name content)

/-- The token of a segment. -/
theorem isSegmentToken_segmentToken (segment : String) :
    IsSegmentToken segment (segmentToken segment) := by
  have htrim : Text.trim segment = "*" ↔ Text.trimChars segment.toList = ['*'] := by
    rw [← String.toList_inj, Text.toList_trim]
    rfl
  rw [segmentToken]
  by_cases hstar : Text.trimChars segment.toList = ['*']
  · rw [if_pos hstar]
    exact .star (htrim.2 hstar)
  · rw [if_neg hstar]
    refine .name (fun h => hstar (htrim.1 h)) ?_
    rw [isUnwrapped_iff, Text.toList_trim, segmentName, String.toList_ofList]

/-! ## The tokens of a name -/

variable {d : Dialect}

/-- A written segment is the star, or its name in quotes. -/
theorem toList_quoteSegment (segment : String) :
    (d.quoteSegment segment).toList
      = if Text.trimChars segment.toList = ['*'] then ['*']
        else d.quoteChars (segmentName segment).toList := by
  rw [Dialect.quoteSegment, String.toList_ofList, Dialect.segmentChars, segmentName,
    String.toList_ofList]

/-- A written segment is read as its token. -/
theorem takeToken_quoteSegment (segment : String) {k : List Char}
    (hk : ∀ c ∈ k.head?, c ≠ d.quotes.closing) :
    d.takeToken ((d.quoteSegment segment).toList ++ k) = some (segmentToken segment, k) := by
  rw [toList_quoteSegment, segmentToken]
  by_cases hstar : Text.trimChars segment.toList = ['*']
  · rw [if_pos hstar, if_pos hstar]
    exact Dialect.takeToken_symbol (by decide) (by cases d <;> decide) k
  · have hquote : d.quotes.opening ≠ singleQuote := by cases d <;> decide
    rw [if_neg hstar, if_neg hstar, Dialect.quoteChars, List.cons_append, List.append_assoc,
      List.singleton_append, Dialect.takeToken, if_neg hquote, if_pos rfl,
      Text.readDoubled_doubled hk, Option.map_some, String.ofList_toList]

/-- **Segments joined by dots are read as their tokens** with dots between them. -/
theorem reads_segments {k : List Char} (hk : ∀ c ∈ k.head?, c ≠ d.quotes.closing)
    (segments : List String) :
    d.Reads ((".".intercalate (segments.map d.quoteSegment)).toList ++ k)
      ((segments.map segmentToken).intersperse (.symbol '.')) k := by
  induction segments with
  | nil => exact .done k
  | cons segment rest ih =>
    cases rest with
    | nil =>
      rw [List.map_singleton, List.map_singleton, String.intercalate_singleton,
        List.intersperse_singleton]
      exact .token (takeToken_quoteSegment segment hk) (.done k)
    | cons next rest =>
      -- The dot behind the segment ends it, and is a token itself.
      have hdot := d.dot_ne_quotes
      rw [List.map_cons, List.map_cons, String.intercalate_cons_cons, List.map_cons,
        List.map_cons, List.intersperse_cons_cons, String.toList_append, String.toList_append,
        List.append_assoc, List.append_assoc]
      refine .token (takeToken_quoteSegment segment ?_)
        (.token (Dialect.takeToken_symbol hdot.1 hdot.2.1 _) ih)
      intro c hc
      obtain rfl : '.' = c := by simpa using hc
      exact hdot.2.2

/-- **A name is written as the tokens of its segments, with single dots between them.** Whatever
stands behind the name, unless it goes on with a closing quote, these are the tokens of exactly the
written name. -/
theorem identifier_reads_segments (d : Dialect) (name : String) {k : String}
    (hk : ∀ c ∈ k.toList.head?, c ≠ d.quotes.closing) :
    ∃ tokens, List.Forall₂ IsSegmentToken (Text.split '.' name) tokens ∧
      d.Reads (d.identifier name ++ k).toList (tokens.intersperse (.symbol '.')) k.toList := by
  refine ⟨(Text.split '.' name).map segmentToken, ?_, ?_⟩
  · rw [List.forall₂_map_right_iff, List.forall₂_same]
    exact fun segment _ => isSegmentToken_segmentToken segment
  · rw [String.toList_append, Dialect.identifier]
    exact reads_segments hk _

/-- A column of a table whose name has a closing quote inside its own quotes. -/
theorem identifier_reads_segments_of_odd_table :
    Dialect.msSql.identifier "dbo. [odd]name] .*" = "[dbo].[odd]]name].*" ∧
    (∀ c ∈ " = 'x'".toList.head?, c ≠ Dialect.msSql.quotes.closing) ∧
    ∃ tokens, List.Forall₂ IsSegmentToken (Text.split '.' "dbo. [odd]name] .*") tokens ∧
      Dialect.msSql.Reads (Dialect.msSql.identifier "dbo. [odd]name] .*" ++ " = 'x'").toList
        (tokens.intersperse (.symbol '.')) " = 'x'".toList := by
  have hk : ∀ c ∈ " = 'x'".toList.head?, c ≠ Dialect.msSql.quotes.closing := by
    intro c hc
    obtain rfl : ' ' = c := by simpa using hc
    decide
  exact ⟨by decide +kernel, hk, identifier_reads_segments .msSql _ hk⟩

end SqlBuilder
