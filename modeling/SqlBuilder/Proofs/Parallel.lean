import Mathlib.Data.List.Forall2
import SqlBuilder.Proofs.Plain
import SqlBuilder.Proofs.Scanner

/-! # Parallel texts

Two pieces of SQL text are parallel if they scan as the same tokens up to what their string literals
hold, and hand the scanner over to the text behind them outside of quotes.  Parallel pieces may be
put together wherever a plain text separates them; a *clause* is a piece that brings its separator
along.  Literals of related values and identifiers are parallel, and so is every plain text to
itself. -/

namespace SqlBuilder

/-- Two tokens that are equal, or string literals whose contents are related. -/
inductive SqlToken.AlikeIn (P : String → String → Prop) : SqlToken → SqlToken → Prop
  | string {s s' : String} (h : P s s') : AlikeIn P (.string s) (.string s')
  | name (s : String) : AlikeIn P (.name s) (.name s)
  | symbol (c : Char) : AlikeIn P (.symbol c) (.symbol c)

/-! ## Scanning a piece of a text -/

namespace Dialect

variable {d : Dialect}

/-- A text that extends no literal and no identifier in front of it: it starts with neither of the
closing quotes. -/
def Detached (d : Dialect) (k : List Char) : Prop :=
  ∀ c ∈ k.head?, c ≠ singleQuote ∧ c ≠ d.quotes.closing

@[simp] theorem detached_nil (d : Dialect) : d.Detached [] := by simp [Detached]

/-- **A text that scans as given tokens**, whatever detached text is behind it. -/
def ScansAs (d : Dialect) (s : String) (ts : List SqlToken) : Prop :=
  ∀ k, d.Detached k → d.scan (s.toList ++ k) = (d.scan k).map (ts ++ ·)

/-- A text that is detached, or empty and so leaves the matter to the text behind it. -/
def Detaches (d : Dialect) (s : String) : Prop := ∀ k, d.Detached k → d.Detached (s.toList ++ k)

/-- A plain character is none of the dialect's quotes. -/
theorem ne_quotes_of_isPlainChar {c : Char} (h : isPlainChar c = true) :
    c ≠ singleQuote ∧ c ≠ d.quotes.opening ∧ c ≠ d.quotes.closing := by
  refine ⟨?_, ?_, ?_⟩ <;> rintro rfl <;> revert h <;> cases d <;> decide

/-- A plain text is one token per character, whatever is behind it. -/
theorem scan_plain_append {s : String} (h : IsPlain s) (k : List Char) :
    d.scan (s.toList ++ k) = (d.scan k).map (s.toList.map SqlToken.symbol ++ ·) := by
  rw [IsPlain] at h
  generalize s.toList = cs at h
  induction cs with
  | nil => simp
  | cons c rest ih =>
    obtain ⟨hs, ho, -⟩ := ne_quotes_of_isPlainChar (d := d) (h c List.mem_cons_self)
    rw [List.cons_append, scan_symbol hs ho, ih fun x hx => h x (List.mem_cons_of_mem c hx),
      Option.map_map]
    rfl

/-- A plain text is empty or detached. -/
theorem detaches_of_isPlain {s : String} (h : IsPlain s) : d.Detaches s := by
  intro k hk
  cases hs : s.toList with
  | nil => exact hk
  | cons c rest =>
    intro x hx
    obtain rfl : c = x := by simpa using hx
    obtain ⟨hq, -, hc⟩ := ne_quotes_of_isPlainChar (d := d) (h c (by simp [hs]))
    exact ⟨hq, hc⟩

/-- A plain text in front of any text makes it detached, unless it is empty. -/
theorem detaches_plain_append {p : String} (hp : IsPlain p) (hne : p ≠ "") (s : String) :
    d.Detaches (p ++ s) := by
  intro k _
  rw [String.toList_append, List.append_assoc]
  cases hs : p.toList with
  | nil => exact absurd (String.toList_eq_nil_iff.1 hs) hne
  | cons c rest =>
    intro x hx
    obtain rfl : c = x := by simpa using hx
    obtain ⟨hq, -, hc⟩ := ne_quotes_of_isPlainChar (d := d) (hp c (by simp [hs]))
    exact ⟨hq, hc⟩

/-- A text literal scans as one string literal with the text. -/
theorem scansAs_textLiteral (s : String) : d.ScansAs (d.textLiteral s) [.string s] := by
  intro k hk
  -- The text behind the literal is detached, so it does not double the closing quote.
  have hread := d.textEscape.read_encode (fun c hc => (hk c hc).1) s.toList
  rw [textLiteral, String.toList_ofList, textChars, List.cons_append, List.append_assoc,
    List.singleton_append, scan_string hread, String.ofList_toList]
  rfl

/-- A quoted segment of a name scans as one identifier. -/
theorem scansAs_quoteChars (bare : List Char) :
    d.ScansAs (String.ofList (d.quoteChars bare)) [.name (String.ofList bare)] := by
  intro k hk
  have hread := Text.readDoubled_doubled (fun c hc => (hk c hc).2) bare
  rw [String.toList_ofList, quoteChars, List.cons_append, List.append_assoc,
    List.singleton_append, scan_name hread]
  rfl

namespace ScansAs

variable {s t p : String} {ts us : List SqlToken}

/-- A plain text scans as its characters. -/
theorem plain (hp : IsPlain p) : d.ScansAs p (p.toList.map .symbol) :=
  fun k _ => scan_plain_append hp k

/-- A plain text in front scans as its characters. -/
theorem plain_append (hp : IsPlain p) (h : d.ScansAs s ts) :
    d.ScansAs (p ++ s) (p.toList.map .symbol ++ ts) := by
  intro k hk
  rw [String.toList_append, List.append_assoc, scan_plain_append hp, h k hk, Option.map_map]
  simp only [Function.comp_def, List.append_assoc]

/-- Two texts scan one after the other if the second extends nothing in front of it. -/
theorem append (hs : d.ScansAs s ts) (ht : d.ScansAs t us) (hdetaches : d.Detaches t) :
    d.ScansAs (s ++ t) (ts ++ us) := by
  intro k hk
  rw [String.toList_append, List.append_assoc, hs _ (hdetaches k hk), ht k hk, Option.map_map]
  simp only [Function.comp_def, List.append_assoc]

/-- Two texts scan one after the other around a plain text that is not empty. -/
theorem glue (hs : d.ScansAs s ts) (hp : IsPlain p) (hne : p ≠ "") (ht : d.ScansAs t us) :
    d.ScansAs (s ++ p ++ t) (ts ++ (p.toList.map .symbol ++ us)) := by
  rw [String.append_assoc]
  exact hs.append (ht.plain_append hp) (detaches_plain_append hp hne t)

/-- The tokens of the whole text. -/
theorem scan_eq (h : d.ScansAs s ts) : d.scan s.toList = some ts := by
  have hscan := h [] d.detached_nil
  rwa [List.append_nil, scan_nil, Option.map_some, List.append_nil] at hscan

end ScansAs

end Dialect

/-! ## Parallel texts -/

variable {d : Dialect} {P : String → String → Prop} {a a' b b' p : String}

/-- **Parallel texts**: they scan as tokens that are equal but for what their string literals
hold. -/
def Parallel (d : Dialect) (P : String → String → Prop) (a b : String) : Prop :=
  ∃ ts us, d.ScansAs a ts ∧ d.ScansAs b us ∧ List.Forall₂ (SqlToken.AlikeIn P) ts us

/-- Parallel texts that may stand behind a literal or an identifier. -/
structure ParallelClause (d : Dialect) (P : String → String → Prop) (a b : String) : Prop where
  /-- The texts are parallel. -/
  parallel : Parallel d P a b
  /-- The first text extends nothing in front of it. -/
  left : d.Detaches a
  /-- The second text extends nothing in front of it. -/
  right : d.Detaches b

/-- Plain tokens are alike. -/
theorem SqlToken.alikeIn_symbols (cs : List Char) :
    List.Forall₂ (SqlToken.AlikeIn P) (cs.map .symbol) (cs.map .symbol) := by
  rw [List.forall₂_same]
  intro t ht
  obtain ⟨c, -, rfl⟩ := List.mem_map.1 ht
  exact .symbol c

/-- A plain text is parallel to itself. -/
theorem Parallel.plain (hp : IsPlain p) : Parallel d P p p :=
  ⟨_, _, .plain hp, .plain hp, SqlToken.alikeIn_symbols p.toList⟩

/-- A plain text is a clause. -/
theorem ParallelClause.plain (hp : IsPlain p) : ParallelClause d P p p :=
  ⟨.plain hp, Dialect.detaches_of_isPlain hp, Dialect.detaches_of_isPlain hp⟩

/-- Parallel texts behind a plain text are parallel. -/
theorem Parallel.plain_append (hp : IsPlain p) (hb : Parallel d P b b') :
    Parallel d P (p ++ b) (p ++ b') := by
  obtain ⟨ts, us, hts, hus, htu⟩ := hb
  exact ⟨_, _, hts.plain_append hp, hus.plain_append hp,
    List.rel_append (SqlToken.alikeIn_symbols p.toList) htu⟩

/-- **Parallel texts with clauses behind them are parallel.** -/
theorem Parallel.append (ha : Parallel d P a a') (hb : ParallelClause d P b b') :
    Parallel d P (a ++ b) (a' ++ b') := by
  obtain ⟨ts, us, hts, hus, htu⟩ := ha
  obtain ⟨⟨vs, ws, hvs, hws, hvw⟩, hleft, hright⟩ := hb
  exact ⟨_, _, hts.append hvs hleft, hus.append hws hright, List.rel_append htu hvw⟩

/-- Parallel texts behind a plain text that is not empty are a clause. -/
theorem ParallelClause.plain_append (hp : IsPlain p) (hne : p ≠ "") (hb : Parallel d P b b') :
    ParallelClause d P (p ++ b) (p ++ b') :=
  ⟨.plain_append hp hb, Dialect.detaches_plain_append hp hne b,
    Dialect.detaches_plain_append hp hne b'⟩

/-- Two clauses are a clause. -/
theorem ParallelClause.append (ha : ParallelClause d P a a') (hb : ParallelClause d P b b') :
    ParallelClause d P (a ++ b) (a' ++ b') := by
  refine ⟨ha.parallel.append hb, fun k hk => ?_, fun k hk => ?_⟩
  · rw [String.toList_append, List.append_assoc]
    exact ha.left _ (hb.left k hk)
  · rw [String.toList_append, List.append_assoc]
    exact ha.right _ (hb.right k hk)

/-- A plain text may stand behind parallel texts. -/
theorem Parallel.append_plain (ha : Parallel d P a a') (hp : IsPlain p) :
    Parallel d P (a ++ p) (a' ++ p) :=
  ha.append (.plain hp)

/-- A plain text that is not empty separates parallel texts. -/
theorem Parallel.glue (ha : Parallel d P a a') (hp : IsPlain p) (hne : p ≠ "")
    (hb : Parallel d P b b') : Parallel d P (a ++ p ++ b) (a' ++ p ++ b') := by
  rw [String.append_assoc, String.append_assoc]
  exact ha.append (.plain_append hp hne hb)

/-- A plain text that is not empty joins parallel texts to a clause. -/
theorem ParallelClause.glue (ha : ParallelClause d P a a') (hp : IsPlain p) (hne : p ≠ "")
    (hb : Parallel d P b b') : ParallelClause d P (a ++ p ++ b) (a' ++ p ++ b') := by
  rw [String.append_assoc, String.append_assoc]
  exact ha.append (.plain_append hp hne hb)

/-- Parallel texts with a separator between them are parallel. -/
theorem Parallel.intercalate (hp : IsPlain p) (hne : p ≠ "") {l l' : List String}
    (h : List.Forall₂ (Parallel d P) l l') :
    Parallel d P (p.intercalate l) (p.intercalate l') := by
  induction h with
  | nil => exact .plain isPlain_empty
  | @cons a a' l l' ha hl ih =>
    cases hl with
    | nil => simpa using ha
    | cons => simpa [String.intercalate_cons_cons] using ha.glue hp hne ih

/-- Joined clauses are a clause. -/
theorem ParallelClause.join {l l' : List String} (h : List.Forall₂ (ParallelClause d P) l l') :
    ParallelClause d P (String.join l) (String.join l') := by
  induction h with
  | nil => exact .plain isPlain_empty
  | cons ha _ ih => simpa [String.join_cons] using ha.append ih

end SqlBuilder
