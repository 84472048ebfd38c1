import SqlBuilder.Dialect
import SqlBuilder.Text.Pieces

/-! # Identifiers

A name is a path of segments joined by dots.  Every segment is trimmed, freed of one pair of quotes
of any style, and put into the dialect's own quotes with closing quotes inside written twice; the
star stands for all columns and stays bare.  An alias is one segment, dots and all. -/

namespace SqlBuilder

/-- The pairs of quotes that a segment may come in. -/
def knownQuotes : List Dialect.Quotes := [⟨'"', '"'⟩, ⟨'\x60', '\x60'⟩, ⟨'[', ']'⟩]

/-- The characters between a pair of quotes, if the segment starts and ends with them. -/
def Dialect.Quotes.inside (q : Dialect.Quotes) : List Char → Option (List Char)
  | [] => none
  | c :: rest =>
    if c = q.opening then
      if rest.getLast? = some q.closing then some rest.dropLast else none
    else none

/-- A segment without the first pair of known quotes that surrounds it. -/
def bareSegment (segment : List Char) : List Char :=
  (knownQuotes.findSome? fun q => q.inside segment).getD segment

namespace Dialect

/-- Characters in the dialect's quotes, closing quotes inside written twice. -/
def quoteChars (d : Dialect) (bare : List Char) : List Char :=
  d.quotes.opening :: (Text.doubled d.quotes.closing bare ++ [d.quotes.closing])

/-- A segment as the dialect writes it. -/
def segmentChars (d : Dialect) (segment : List Char) : List Char :=
  let trimmed := Text.trimChars segment
  if trimmed = ['*'] then ['*'] else d.quoteChars (bareSegment trimmed)

/-- One segment of a name as the dialect writes it. -/
def quoteSegment (d : Dialect) (segment : String) : String :=
  String.ofList (d.segmentChars segment.toList)

/-- A dotted name as the dialect writes it. -/
def identifier (d : Dialect) (name : String) : String :=
  ".".intercalate ((Text.split '.' name).map d.quoteSegment)

/-- An alias as the dialect writes it: one segment, whatever dots it has. -/
def aliasName (d : Dialect) (name : String) : String := d.quoteSegment name

/-- The star is never quoted. -/
theorem quoteSegment_star (d : Dialect) : d.quoteSegment "*" = "*" := by
  cases d <;> rfl

end Dialect

/-! ## Tables with aliases -/

/-- A table that a statement reads or changes, under an alias or not. -/
structure TableRef where
  /-- The dotted name of the table. -/
  name : String
  /-- The alias, if there is one. -/
  aliasName : Option String
deriving Repr, DecidableEq

namespace TableRef

/-- The table as the dialect writes it. -/
def render (t : TableRef) (d : Dialect) : String :=
  match t.aliasName with
  | some a => d.identifier t.name ++ d.aliasKeyword ++ d.aliasName a
  | none => d.identifier t.name

/-- The name by which a statement refers to the table. -/
def effectiveName (t : TableRef) : String := t.aliasName.getD (Text.lastPiece '.' t.name)

end TableRef

end SqlBuilder
