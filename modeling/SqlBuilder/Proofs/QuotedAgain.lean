import SqlBuilder.Proofs.IdentifierTokens
import SqlBuilder.Proofs.Parallel.Quoting

/-! # Names that are quoted again

A name that a dialect has written may be passed to it again.  Its quotes are taken off and put on
again, so it stays as it is if the name holds no closing quote, which would be written twice each
time (`Dialect.quoteSegment_quoteSegment_iff`).  A dotted name is split at its dots again, also an
alias at the dots inside its quotes (`written_names_stay`). -/

namespace SqlBuilder

/-! ## Characters written twice -/

namespace Text

variable {special c : Char} {cs : List Char}

/-- Writing characters twice adds no others. -/
theorem mem_doubled_iff : c ∈ doubled special cs ↔ c ∈ cs := by
  induction cs with
  | nil => rfl
  | cons d rest ih =>
    rw [doubled]
    by_cases h : d = special
    · rw [if_pos h, List.mem_cons, List.mem_cons, List.mem_cons, ih, or_self_left]
    · rw [if_neg h, List.mem_cons, List.mem_cons, ih]

/-- Every occurrence of the character adds one. -/
theorem length_doubled (special : Char) (cs : List Char) :
    (doubled special cs).length = cs.length + cs.count special := by
  induction cs with
  | nil => rfl
  | cons d rest ih =>
    rw [doubled]
    by_cases h : d = special
    · subst h
      rw [if_pos rfl, List.count_cons_self, List.length_cons, List.length_cons, List.length_cons,
        ih]
      omega
    · rw [if_neg h, List.count_cons_of_ne h, List.length_cons, List.length_cons, ih]
      omega

/-- **A text stays as it is if the character is not in it**, and only then. -/
theorem doubled_eq_self_iff : doubled special cs = cs ↔ special ∉ cs := by
  constructor
  · intro heq
    have hlength := length_doubled special cs
    rw [heq] at hlength
    exact List.count_eq_zero.1 (by omega)
  · exact doubled_of_not_mem

/-! ## Splitting and joining -/

/-- Splitting as the standard library does it. -/
theorem splitChars_eq_splitOn (separator : Char) (cs : List Char) :
    splitChars separator cs = cs.splitOn separator := by
  induction cs with
  | nil => rfl
  | cons d rest ih =>
    rw [splitChars, List.splitOn_cons_eq_if_modifyHead]
    by_cases h : d = separator
    · rw [if_pos h, if_pos (by simp [h]), ih]
    · rw [if_neg h, if_neg (by simp [h]), ← ih]
      cases hpieces : splitChars separator rest with
      | nil => exact absurd hpieces (splitChars_ne_nil separator rest)
      | cons piece pieces => rfl

/-- No piece holds the separator. -/
theorem separator_not_mem_of_mem_splitChars {separator : Char} {piece : List Char}
    (h : piece ∈ splitChars separator cs) : separator ∉ piece := by
  induction cs generalizing piece with
  | nil =>
    obtain rfl : piece = [] := by simpa using h
    exact List.not_mem_nil
  | cons d rest ih =>
    rw [splitChars] at h
    by_cases hd : d = separator
    · rw [if_pos hd, List.mem_cons] at h
      rcases h with rfl | h
      · exact List.not_mem_nil
      · exact ih h
    · rw [if_neg hd] at h
      -- The character goes in front of the first piece.
      cases hpieces : splitChars separator rest with
      | nil => exact absurd hpieces (splitChars_ne_nil separator rest)
      | cons first pieces =>
        rw [hpieces] at ih h
        rcases List.mem_cons.1 h with rfl | h
        · rw [List.mem_cons, not_or]
          exact ⟨Ne.symm hd, ih List.mem_cons_self⟩
        · exact ih (List.mem_cons_of_mem first h)

/-- A text without the separator is one piece. -/
theorem split_of_not_mem {separator : Char} {s : String} (h : separator ∉ s.toList) :
    split separator s = [s] := by
  rw [split, splitChars_eq_splitOn, List.splitOn_eq_singleton h, List.map_singleton,
    String.ofList_toList]

/-- A text that is one piece has no separator. -/
theorem not_mem_of_length_split {separator : Char} {s : String}
    (h : (split separator s).length = 1) : separator ∉ s.toList := by
  rw [split, List.length_map] at h
  obtain ⟨piece, hpiece⟩ := List.length_eq_one_iff.1 h
  have hnot := separator_not_mem_of_mem_splitChars (hpiece ▸ List.mem_singleton_self piece)
  have hjoin : [separator].intercalate (s.toList.splitOn separator) = s.toList :=
    List.intercalate_splitOn separator
  rw [← splitChars_eq_splitOn, hpiece, List.intercalate_singleton] at hjoin
  rwa [hjoin] at hnot

end Text

/-! ## Segments that are quoted again -/

variable {d : Dialect}

/-- Blanks are trimmed outside of quotes only. -/
theorem trimChars_quoteChars (bare : List Char) :
    Text.trimChars (d.quoteChars bare) = d.quoteChars bare := by
  have hblank : Text.isBlank d.quotes.opening = false ∧ Text.isBlank d.quotes.closing = false := by
    cases d <;> decide
  have hends : d.quoteChars bare = [] ++ d.quoteChars bare ++ [] := by simp
  conv_lhs => rw [hends]
  refine Text.trimChars_append (by simp) (by simp) ?_ ?_
  · intro c hc
    obtain rfl : d.quotes.opening = c := by simpa [Dialect.quoteChars] using hc
    exact hblank.1
  · intro c hc
    rw [Dialect.quoteChars, ← List.cons_append, List.getLast?_concat] at hc
    obtain rfl : d.quotes.closing = c := by simpa using hc
    exact hblank.2

/-- **What was written in quotes is written again** with its closing quotes once more written
twice. -/
theorem segmentChars_quoteChars (bare : List Char) :
    d.segmentChars (d.quoteChars bare)
      = d.quoteChars (Text.doubled d.quotes.closing bare) := by
  have hstar : d.quoteChars bare ≠ ['*'] := by
    intro heq
    have hfirst := (List.cons.inj heq).1
    revert hfirst
    cases d <;> decide
  rw [Dialect.segmentChars, trimChars_quoteChars, if_neg hstar]
  congr 1
  exact bareSegment_of_mem_knownQuotes d.quotes_mem_knownQuotes _

/-- Texts in quotes are equal if what the quotes hold is written alike. -/
theorem quoteChars_inj {a b : List Char} :
    d.quoteChars a = d.quoteChars b
      ↔ Text.doubled d.quotes.closing a = Text.doubled d.quotes.closing b := by
  rw [Dialect.quoteChars, Dialect.quoteChars, List.cons.injEq, List.append_left_inj]
  exact and_iff_right rfl

/-- The star is its own name. -/
theorem toList_segmentName_of_star {segment : String}
    (h : Text.trimChars segment.toList = ['*']) : (segmentName segment).toList = ['*'] := by
  rw [segmentName, String.toList_ofList, h]
  decide

/-- **A written segment stays as it is when it is written again exactly if its name holds no closing
quote** of the dialect. -/
theorem Dialect.quoteSegment_quoteSegment_iff (segment : String) :
    d.quoteSegment (d.quoteSegment segment) = d.quoteSegment segment
      ↔ d.quotes.closing ∉ (segmentName segment).toList := by
  have hsegment := toList_quoteSegment (d := d) segment
  by_cases hstar : Text.trimChars segment.toList = ['*']
  · -- The star is never quoted.
    rw [if_pos hstar] at hsegment
    have hstays : d.quoteSegment segment = "*" := String.toList_inj.1 hsegment
    rw [hstays, d.quoteSegment_star, toList_segmentName_of_star hstar]
    refine iff_of_true rfl ?_
    cases d <;> decide
  · rw [if_neg hstar] at hsegment
    rw [← String.toList_inj, Dialect.quoteSegment, String.toList_ofList, hsegment,
      segmentChars_quoteChars, quoteChars_inj, Text.doubled_eq_self_iff, Text.mem_doubled_iff]

/-! ## Dots -/

/-- A written segment has the dots of its name. -/
theorem dot_mem_quoteSegment_iff (segment : String) :
    '.' ∈ (d.quoteSegment segment).toList ↔ '.' ∈ (segmentName segment).toList := by
  rw [toList_quoteSegment]
  by_cases hstar : Text.trimChars segment.toList = ['*']
  · rw [if_pos hstar, toList_segmentName_of_star hstar]
  · obtain ⟨-, hopening, hclosing⟩ := d.dot_ne_quotes
    rw [if_neg hstar, Dialect.quoteChars, List.mem_cons, List.mem_append, Text.mem_doubled_iff,
      List.mem_singleton, or_iff_right hopening, or_iff_left hclosing]

/-- The name of a segment is part of it. -/
theorem mem_of_mem_segmentName {segment : String} {c : Char}
    (h : c ∈ (segmentName segment).toList) : c ∈ segment.toList := by
  obtain ⟨before, after, hsegment, -⟩ := exists_eq_append_segmentName segment
  rw [hsegment]
  exact List.mem_append_left _ (List.mem_append_right _ h)

/-- **A written name has the written segments**: no new dots arise. -/
theorem split_identifier (name : String) :
    Text.split '.' (d.identifier name) = (Text.split '.' name).map d.quoteSegment := by
  have hdots : ∀ piece ∈ (Text.split '.' name).map fun s => (d.quoteSegment s).toList,
      '.' ∉ piece := by
    intro piece hpiece hdot
    obtain ⟨segment, hsegment, rfl⟩ := List.mem_map.1 hpiece
    obtain ⟨cs, hcs, rfl⟩ := List.mem_map.1 hsegment
    rw [dot_mem_quoteSegment_iff] at hdot
    have hmem := mem_of_mem_segmentName hdot
    rw [String.toList_ofList] at hmem
    exact Text.separator_not_mem_of_mem_splitChars hcs hmem
  have hne : ((Text.split '.' name).map fun s => (d.quoteSegment s).toList) ≠ [] := by
    simpa [Text.split] using Text.splitChars_ne_nil '.' name.toList
  have hsplit := List.splitOn_intercalate '.' hdots hne
  have htext : (d.identifier name).toList
      = ['.'].intercalate ((Text.split '.' name).map fun s => (d.quoteSegment s).toList) := by
    rw [Dialect.identifier, String.toList_intercalate, List.map_map]
    rfl
  rw [Text.split, Text.splitChars_eq_splitOn, htext, hsplit, List.map_map]
  refine List.map_congr_left fun segment _ => ?_
  rw [Function.comp_apply, String.ofList_toList]

/-- **A written name that holds dots is taken apart** when it is written as a dotted name. -/
theorem identifier_quoteSegment_ne {segment : String} (h : '.' ∈ (segmentName segment).toList) :
    d.identifier (d.quoteSegment segment) ≠ d.quoteSegment segment := by
  intro heq
  -- The dotted name is more than one token, the segment is one.
  have hpieces := reads_segments (d := d) (k := []) (by simp)
    (Text.split '.' (d.quoteSegment segment))
  have hscan := hpieces.scan_eq
  rw [List.append_nil, ← Dialect.identifier, heq, (scansAs_quoteSegment segment).scan_eq,
    Dialect.scan_nil, Option.map_some, List.append_nil, Option.some.injEq] at hscan
  have hlength := congrArg List.length hscan
  rw [List.length_intersperse, List.length_map, List.length_singleton] at hlength
  have hone : (Text.split '.' (d.quoteSegment segment)).length = 1 := by omega
  exact Text.not_mem_of_length_split hone ((dot_mem_quoteSegment_iff segment).2 h)

/-! ## Names -/

/-- **Written names stay as they are when they are written again**, if what their quotes hold has no
closing quote of the dialect.  An alias is taken for a dotted name if it holds dots, and it stays as
it is exactly if it holds none. -/
theorem written_names_stay (d : Dialect) (n : String) :
    (d.quotes.closing ∉ (segmentName n).toList →
      d.aliasName (d.aliasName n) = d.aliasName n ∧
      (d.identifier (d.aliasName n) = d.aliasName n ↔ '.' ∉ (segmentName n).toList)) ∧
    ((∀ segment ∈ Text.split '.' n, d.quotes.closing ∉ (segmentName segment).toList) →
      d.identifier (d.identifier n) = d.identifier n) := by
  refine ⟨fun hclosing => ?_, fun hclosing => ?_⟩
  · have hagain := (d.quoteSegment_quoteSegment_iff n).2 hclosing
    refine ⟨hagain, fun heq hdot => identifier_quoteSegment_ne hdot heq, fun hdot => ?_⟩
    have hone : Text.split '.' (d.quoteSegment n) = [d.quoteSegment n] :=
      Text.split_of_not_mem (mt (dot_mem_quoteSegment_iff n).1 hdot)
    rw [Dialect.aliasName, Dialect.identifier, hone, List.map_singleton,
      String.intercalate_singleton, hagain]
  · have hagain : ((Text.split '.' n).map d.quoteSegment).map d.quoteSegment
        = (Text.split '.' n).map d.quoteSegment := by
      rw [List.map_map]
      exact List.map_congr_left fun segment hsegment =>
        (d.quoteSegment_quoteSegment_iff segment).2 (hclosing segment hsegment)
    rw [Dialect.identifier, split_identifier, hagain, ← Dialect.identifier]

/-- The name of a table in a schema stays as it is, but not as an alias, as it has a dot. -/
theorem written_names_stay_of_schema_table :
    let d := Dialect.postgreSql
    let n := "app.[my ]rows]"
    d.aliasName n = "\"app.[my ]rows]\"" ∧
    d.identifier n = "\"app\".\"my ]rows\"" ∧
    d.quotes.closing ∉ (segmentName n).toList ∧
    (∀ segment ∈ Text.split '.' n, d.quotes.closing ∉ (segmentName segment).toList) ∧
    d.aliasName (d.aliasName n) = d.aliasName n ∧
    d.identifier (d.aliasName n) ≠ d.aliasName n ∧
    d.identifier (d.identifier n) = d.identifier n := by
  intro d n
  have hclosing : d.quotes.closing ∉ (segmentName n).toList := by decide +kernel
  have hclosings : ∀ segment ∈ Text.split '.' n,
      d.quotes.closing ∉ (segmentName segment).toList := by decide +kernel
  have hdot : '.' ∈ (segmentName n).toList := by decide +kernel
  obtain ⟨hwhole, hsegments⟩ := written_names_stay d n
  obtain ⟨halias, htaken⟩ := hwhole hclosing
  exact ⟨by decide +kernel, by decide +kernel, hclosing, hclosings, halias,
    fun heq => htaken.1 heq hdot, hsegments hclosings⟩

/-- **Written names that do not stay as they are**: an alias with a dot is taken apart, and a
closing quote inside of quotes is written twice once more. -/
theorem written_names_change :
    let d := Dialect.standard
    d.aliasName "total.sum" = "\"total.sum\"" ∧
    d.identifier "\"total.sum\"" = "\"\"\"total\".\"sum\"\"\"" ∧
    d.aliasName "we\"ird" = "\"we\"\"ird\"" ∧
    d.aliasName "\"we\"\"ird\"" = "\"we\"\"\"\"ird\"" ∧
    d.identifier (d.aliasName "total.sum") ≠ d.aliasName "total.sum" ∧
    d.aliasName (d.aliasName "we\"ird") ≠ d.aliasName "we\"ird" ∧
    d.identifier (d.identifier "we\"ird") ≠ d.identifier "we\"ird" := by
  decide +kernel

end SqlBuilder
