/-! # Letter case of the ASCII letters

Keywords, dialect names and column names are compared without regard to the case of the letters
`A` to `Z`; every other character stands for itself. -/

namespace SqlBuilder.Text

/-- The text with `a` to `z` in upper case. -/
def upper (s : String) : String := s.map Char.toUpper

/-- The text with `A` to `Z` in lower case. -/
def lower (s : String) : String := s.map Char.toLower

/-- Whether two texts differ at most in the case of ASCII letters. -/
def equalIgnoringCase (a b : String) : Bool := lower a == lower b

@[simp] theorem equalIgnoringCase_self (a : String) : equalIgnoringCase a a = true := by
  simp [equalIgnoringCase]

/-- Equality without regard to case is symmetric. -/
theorem equalIgnoringCase_comm (a b : String) :
    equalIgnoringCase a b = equalIgnoringCase b a := by
  simp [equalIgnoringCase, Bool.beq_comm]

end SqlBuilder.Text
