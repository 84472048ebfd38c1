import SqlBuilder.Pattern.Reading

/-! # Patterns for whole texts

A pattern for a whole text is written without its anchors; it is read inside a group between an
assertion of the start and one of the end of the text. -/

namespace SqlBuilder

/-- A pattern that a text is matched against as a whole. -/
structure WholePattern where
  /-- The text of the pattern with its anchors. -/
  source : String
  /-- The pattern itself. -/
  pattern : Pattern
deriving Repr, DecidableEq

namespace WholePattern

/-- A written pattern between the anchors. -/
def anchored (text : String) : String := "^(?:" ++ text ++ ")$"

/-- The pattern that a text writes between the anchors.  It is read together with them. -/
def ofText? (text : String) : Option WholePattern :=
  (Pattern.ofText? (anchored text)).map fun pattern => ⟨anchored text, pattern⟩

/-- Whether the pattern matches a text. -/
def accepts (p : WholePattern) (text : String) : Bool := p.pattern.matchesIn text.toList.toArray

end WholePattern

end SqlBuilder
