import SqlBuilder.Change
import SqlBuilder.Proofs.Parallel
import SqlBuilder.Proofs.TextEnds

/-! # The names that quotes hold

A segment of a dotted name is written in quotes, and the scanner reads back which name the quotes
hold (`Dialect.endName`, `Dialect.sourceNames`): the segment without blanks at its ends and without
one pair of quotes (`segmentName`).  The same segment is also compared with other names, and for
that it is freed of all quotes at its ends, but of no blanks (`unquoted`).  Both readings give the
same name exactly for a plain segment (`equalIgnoringCase_unquoted_iff`). -/

namespace SqlBuilder

/-! ## Reading names -/

/-- The text that a token stands for. -/
def SqlToken.text : SqlToken → String
  | .string content => content
  | .name content => content
  | .symbol c => String.singleton c

namespace Dialect

/-- **The name at the end of a text**: what its last token stands for. -/
def endName (d : Dialect) (s : String) : Option String := do
  let tokens ← d.scan s.toList
  tokens.getLast?.map SqlToken.text

/-- **The names of a table and its alias**, read off a text in which a blank separates them. -/
def sourceNames (d : Dialect) (s : String) : List String :=
  match d.scan s.toList with
  | none => []
  | some tokens =>
    let inTable := fun token => decide (token ≠ SqlToken.symbol ' ')
    [tokens.takeWhile inTable, tokens.dropWhile inTable].filterMap fun part =>
      part.getLast?.map SqlToken.text

end Dialect

/-! ## The name of a segment -/

/-- **The name that the quotes around a segment hold.** -/
def segmentName (segment : String) : String :=
  String.ofList (bareSegment (Text.trimChars segment.toList))

/-- The token that a written segment is. -/
def segmentToken (segment : String) : SqlToken :=
  if Text.trimChars segment.toList = ['*'] then .symbol '*' else .name (segmentName segment)

/-- The token of a segment stands for its name. -/
@[simp] theorem text_segmentToken (segment : String) :
    (segmentToken segment).text = segmentName segment := by
  rw [segmentToken]
  split
  · next hstar =>
    rw [segmentName, hstar]
    decide
  · rfl

/-- No segment is written as a blank. -/
theorem segmentToken_ne_blank (segment : String) : segmentToken segment ≠ .symbol ' ' := by
  rw [segmentToken]
  split <;> simp

variable {d : Dialect}

/-- A written segment scans as its token. -/
theorem scansAs_quoteSegment (segment : String) :
    d.ScansAs (d.quoteSegment segment) [segmentToken segment] := by
  rw [Dialect.quoteSegment, Dialect.segmentChars, segmentToken]
  split
  · exact .plain (by decide)
  · exact Dialect.scansAs_quoteChars _

/-- **A written name ends with the token of its last segment**, and has no blanks outside of
quotes. -/
theorem exists_scansAs_identifier (name : String) :
    ∃ front, d.ScansAs (d.identifier name)
        (front ++ [segmentToken (Text.lastPiece '.' name)]) ∧ .symbol ' ' ∉ front := by
  have hdot : IsPlain "." := by decide
  have hpath : ∀ (pieces : List String) (last : String), pieces.getLast? = some last →
      ∃ front, d.ScansAs (".".intercalate (pieces.map d.quoteSegment))
        (front ++ [segmentToken last]) ∧ .symbol ' ' ∉ front := by
    intro pieces
    induction pieces with
    | nil => simp
    | cons piece rest ih =>
      intro last hlast
      cases rest with
      | nil =>
        -- The last segment has nothing in front of it.
        obtain rfl : piece = last := by simpa using hlast
        exact ⟨[], by simpa using scansAs_quoteSegment piece, by simp⟩
      | cons next rest =>
        obtain ⟨front, hscan, hfront⟩ := ih last (by simpa using hlast)
        refine ⟨segmentToken piece :: .symbol '.' :: front, ?_, ?_⟩
        · have hglue := (scansAs_quoteSegment (d := d) piece).glue hdot (by decide) hscan
          simpa [String.intercalate_cons_cons] using hglue
        · simp [(segmentToken_ne_blank piece).symm, hfront]
  refine hpath _ _ ?_
  have hne : Text.split '.' name ≠ [] := by
    simpa [Text.split] using Text.splitChars_ne_nil '.' name.toList
  rw [Text.lastPiece, List.getLast?_eq_some_getLast hne]
  rfl

/-- **The name at the end of a written name** is that of its last segment. -/
theorem endName_identifier (name : String) :
    d.endName (d.identifier name) = some (segmentName (Text.lastPiece '.' name)) := by
  obtain ⟨front, hscan, -⟩ := exists_scansAs_identifier (d := d) name
  rw [Dialect.endName, hscan.scan_eq]
  simp

/-! ## The names of a table -/

/-- The segments that a table and its alias are known by. -/
def TableRef.segments (t : TableRef) : List String :=
  Text.lastPiece '.' t.name :: t.aliasName.toList

/-- **The names of a written table and its alias** are those of their segments. -/
theorem sourceNames_render (t : TableRef) :
    d.sourceNames (t.render d) = t.segments.map segmentName := by
  obtain ⟨front, hscan, hfront⟩ := exists_scansAs_identifier (d := d) t.name
  have htable : ∀ token ∈ front ++ [segmentToken (Text.lastPiece '.' t.name)],
      decide (token ≠ SqlToken.symbol ' ') = true := by
    intro token htoken
    rw [decide_eq_true_iff]
    rcases List.mem_append.1 htoken with h | h
    · exact fun hblank => hfront (hblank ▸ h)
    · rw [List.mem_singleton.1 h]
      exact segmentToken_ne_blank _
  cases halias : t.aliasName with
  | none =>
    have hrender : t.render d = d.identifier t.name := by rw [TableRef.render, halias]
    rw [hrender, Dialect.sourceNames, hscan.scan_eq]
    dsimp only
    rw [List.takeWhile_eq_self_iff.2 htable, List.dropWhile_eq_nil_iff.2 htable, TableRef.segments,
      halias]
    simp
  | some a =>
    have hrender : t.render d = d.identifier t.name ++ d.aliasKeyword ++ d.quoteSegment a := by
      rw [TableRef.render, halias]
      rfl
    have hplain : IsPlain d.aliasKeyword := by cases d <;> decide
    have hkeyword : ∃ rest, d.aliasKeyword.toList = ' ' :: rest := by cases d <;> exact ⟨_, rfl⟩
    obtain ⟨rest, hrest⟩ := hkeyword
    have hne : d.aliasKeyword ≠ "" := fun hempty => by simp [hempty] at hrest
    have hglue := hscan.glue hplain hne (scansAs_quoteSegment a)
    rw [hrest] at hglue
    rw [hrender, Dialect.sourceNames, hglue.scan_eq]
    dsimp only
    have hlast : (SqlToken.symbol ' ' :: (rest.map SqlToken.symbol ++ [segmentToken a])).getLast?
        = some (segmentToken a) := by
      rw [← List.cons_append, List.getLast?_concat]
    -- The keyword starts with the first blank outside of quotes.
    rw [List.takeWhile_append_of_pos htable, List.dropWhile_append_of_pos htable,
      List.map_cons, List.cons_append, List.takeWhile_cons_of_neg (by simp),
      List.dropWhile_cons_of_neg (by simp), TableRef.segments, halias]
    simp [hlast]

/-! ## Two readings of a segment -/

/-- Whether a character is a quote of some style. -/
def isQuoteMark (c : Char) : Bool := c = '[' || c = ']' || c = '"' || c = '\x60'

/-- **A segment that is read and written alike**: it has no blanks at its ends, and what one pair of
quotes holds has no further quotes at its ends. -/
def IsPlainSegment (segment : String) : Prop :=
  Text.trimChars segment.toList = segment.toList ∧
    (∀ c ∈ (segmentName segment).toList.head?, isQuoteMark c = false) ∧
    ∀ c ∈ (segmentName segment).toList.getLast?, isQuoteMark c = false

/-- Letters are no quotes, in upper or in lower case. -/
theorem isQuoteMark_toLower (c : Char) : isQuoteMark c.toLower = isQuoteMark c := by
  have hletters : ∀ n ∈ List.range' 65 26,
      isQuoteMark (Char.ofNat n).toLower = isQuoteMark (Char.ofNat n) := by decide
  by_cases hupper : 65 ≤ c.toNat ∧ c.toNat ≤ 90
  · have hletter := hletters c.toNat (by simp; omega)
    rwa [Char.ofNat_toNat] at hletter
  · have hkeep : c.toLower = c := by
      unfold Char.toLower
      rw [dif_neg]
      exact hupper
    rw [hkeep]

/-- No blank is a quote. -/
theorem not_isQuoteMark_of_isBlank {c : Char} (h : Text.isBlank c = true) :
    isQuoteMark c = false := by
  by_contra hquote
  simp only [isQuoteMark, Bool.or_eq_true, decide_eq_true_eq, Bool.not_eq_false] at hquote
  rcases hquote with ((rfl | rfl) | rfl) | rfl <;> revert h <;> decide

/-- A pair of quotes holds what stands between them. -/
theorem Dialect.Quotes.inside_eq_some_iff {q : Dialect.Quotes} {cs content : List Char} :
    q.inside cs = some content ↔ cs = q.opening :: (content ++ [q.closing]) := by
  cases cs with
  | nil => simp [Dialect.Quotes.inside]
  | cons c rest =>
    rw [Dialect.Quotes.inside, List.cons.injEq]
    by_cases hopening : c = q.opening
    · rw [if_pos hopening]
      by_cases hclosing : rest.getLast? = some q.closing
      · obtain ⟨front, rfl⟩ := List.getLast?_eq_some_iff.1 hclosing
        rw [if_pos hclosing, List.dropLast_concat, Option.some.injEq]
        constructor
        · rintro rfl
          exact ⟨hopening, rfl⟩
        · rintro ⟨-, hrest⟩
          exact List.append_cancel_right hrest
      · rw [if_neg hclosing]
        constructor
        · intro h
          cases h
        · rintro ⟨-, rfl⟩
          exact absurd List.getLast?_concat hclosing
    · rw [if_neg hopening]
      constructor
      · intro h
        cases h
      · rintro ⟨hfirst, -⟩
        exact absurd hfirst hopening

/-- A segment without its pair of quotes has only quotes around it. -/
theorem exists_eq_append_bareSegment (cs : List Char) :
    ∃ before after, cs = before ++ bareSegment cs ++ after ∧
      (∀ c ∈ before, isQuoteMark c = true) ∧ ∀ c ∈ after, isQuoteMark c = true := by
  rw [bareSegment]
  -- One pair of known quotes is removed, or nothing is.
  cases hpair : knownQuotes.findSome? fun q => q.inside cs with
  | none => exact ⟨[], [], by simp, by simp, by simp⟩
  | some bare =>
    obtain ⟨q, hq, hinside⟩ := List.exists_of_findSome?_eq_some hpair
    have hmarks : isQuoteMark q.opening = true ∧ isQuoteMark q.closing = true := by
      have hknown : ∀ q ∈ knownQuotes,
          isQuoteMark q.opening = true ∧ isQuoteMark q.closing = true := by decide
      exact hknown q hq
    exact ⟨[q.opening], [q.closing], Dialect.Quotes.inside_eq_some_iff.1 hinside,
      by simpa using hmarks.1, by simpa using hmarks.2⟩

/-- Two texts that differ in letter case have quotes at the same places. -/
theorem isQuoteMark_eq_of_lower {cs cs' : List Char}
    (h : cs.map Char.toLower = cs'.map Char.toLower) :
    cs.map isQuoteMark = cs'.map isQuoteMark := by
  have hlower : ∀ cs : List Char, cs.map isQuoteMark = (cs.map Char.toLower).map isQuoteMark := by
    intro cs
    rw [List.map_map]
    exact List.map_congr_left fun c _ => (isQuoteMark_toLower c).symm
  rw [hlower cs, h, ← hlower]

/-- Two texts are equal up to letter case if their characters are. -/
theorem equalIgnoringCase_iff (a b : String) :
    Text.equalIgnoringCase a b = true ↔ a.toList.map Char.toLower = b.toList.map Char.toLower := by
  rw [Text.equalIgnoringCase, beq_iff_eq, Text.lower, Text.lower, ← String.toList_inj,
    String.toList_map, String.toList_map]

/-- What is left of a name without the quotes at its ends. -/
theorem toList_unquoted (name : String) :
    (unquoted name).toList = Text.stripBoth isQuoteMark name.toList := by
  rw [unquoted, String.toList_ofList]
  rfl

/-- A segment is its name with blanks and quotes around it. -/
theorem exists_eq_append_segmentName (segment : String) :
    ∃ before after,
      segment.toList = before ++ (segmentName segment).toList ++ after ∧
      (Text.trimChars segment.toList = segment.toList ↔
        (∀ c ∈ before, isQuoteMark c = true) ∧ ∀ c ∈ after, isQuoteMark c = true) := by
  obtain ⟨blanks, blanks', hblanks, hbefore, hafter⟩ :=
    Text.exists_eq_append_trimChars segment.toList
  obtain ⟨quotes, quotes', hquotes, hopening, hclosing⟩ :=
    exists_eq_append_bareSegment (Text.trimChars segment.toList)
  have hsegment : segment.toList
      = blanks ++ quotes ++ (segmentName segment).toList ++ (quotes' ++ blanks') := by
    rw [segmentName, String.toList_ofList]
    calc segment.toList = blanks ++ Text.trimChars segment.toList ++ blanks' := hblanks
      _ = blanks ++ (quotes ++ bareSegment (Text.trimChars segment.toList) ++ quotes')
          ++ blanks' := by rw [← hquotes]
      _ = _ := by simp only [List.append_assoc]
  refine ⟨blanks ++ quotes, quotes' ++ blanks', hsegment, ?_, ?_⟩
  · intro htrim
    -- Nothing is trimmed, so there are no blanks.
    have hlength := congrArg List.length hblanks
    rw [htrim, List.length_append, List.length_append] at hlength
    obtain rfl : blanks = [] := List.length_eq_zero_iff.1 (by omega)
    obtain rfl : blanks' = [] := List.length_eq_zero_iff.1 (by omega)
    exact ⟨by simpa using hopening, by simpa using hclosing⟩
  · rintro ⟨hfront, hback⟩
    -- No character is both a blank and a quote, so there are no blanks.
    have hnone : ∀ cs : List Char, (∀ c ∈ cs, Text.isBlank c = true) →
        (∀ c ∈ cs, isQuoteMark c = true) → cs = [] := by
      intro cs hblank hquote
      refine List.eq_nil_iff_forall_not_mem.2 fun c hc => ?_
      have hneither := not_isQuoteMark_of_isBlank (hblank c hc)
      rw [hquote c hc] at hneither
      cases hneither
    obtain rfl := hnone blanks hbefore fun c hc => hfront c (List.mem_append_left _ hc)
    obtain rfl := hnone blanks' hafter fun c hc => hback c (List.mem_append_right _ hc)
    rw [List.nil_append, List.append_nil] at hblanks
    exact hblanks.symm

/-- **The two readings of a segment give the same name exactly if the segment is plain.** -/
theorem equalIgnoringCase_unquoted_iff (segment : String) :
    Text.equalIgnoringCase (unquoted segment) (segmentName segment) = true
      ↔ IsPlainSegment segment := by
  obtain ⟨before, after, hsegment, htrim⟩ := exists_eq_append_segmentName segment
  rw [equalIgnoringCase_iff, toList_unquoted, IsPlainSegment, htrim]
  constructor
  · intro hlower
    -- The ends of the name are outside of quotes because those of the other reading are.
    have hmarks := isQuoteMark_eq_of_lower hlower
    have hhead : ∀ c ∈ (segmentName segment).toList.head?, isQuoteMark c = false := by
      intro c hc
      have hfirst := congrArg List.head? hmarks
      rw [List.head?_map, List.head?_map, hc, Option.map_some, Option.map_eq_some_iff] at hfirst
      obtain ⟨c', hc', heq⟩ := hfirst
      rw [← heq]
      exact Text.not_of_mem_head?_stripBoth hc'
    have hlast : ∀ c ∈ (segmentName segment).toList.getLast?, isQuoteMark c = false := by
      intro c hc
      have hfinal := congrArg List.getLast? hmarks
      rw [List.getLast?_map, List.getLast?_map, hc, Option.map_some,
        Option.map_eq_some_iff] at hfinal
      obtain ⟨c', hc', heq⟩ := hfinal
      rw [← heq]
      exact Text.not_of_mem_getLast?_stripBoth hc'
    have hlength := congrArg List.length hlower
    rw [List.length_map, List.length_map, hsegment] at hlength
    exact ⟨Text.all_of_length_stripBoth hhead hlast hlength, hhead, hlast⟩
  · rintro ⟨⟨hbefore, hafter⟩, hhead, hlast⟩
    rw [hsegment, Text.stripBoth_of_surrounded hhead hlast hbefore hafter]

end SqlBuilder
