import SqlBuilder.Text.CodeRanges

/-! # Sets of characters with names

The sets of a standard have names, which are looked up loosely: letter case, blanks, underscores and
minuses do not count, and neither does `is` at the start.  `sameName` is the resulting equality. -/

namespace SqlBuilder.Text

/-- A set of characters with all its names. -/
structure NamedSet where
  /-- The names, each with the same meaning. -/
  names : List String
  /-- The characters. -/
  members : CodeRanges

/-- What counts of a name behind its start: the ASCII characters other than blanks, underscores and
minuses, in lower case. -/
def essential (name : List Char) : List Char :=
  (name.filter fun c => c.toNat < 128 && c != ' ' && c != '_' && c != '-').map Char.toLower

/-- What counts of a name.  The `is` at its start is left out, but `isc` is a name of its own. -/
def looseName (name : List Char) : List Char :=
  match name with
  | i :: s :: rest =>
    if i.toLower = 'i' ∧ s.toLower = 's' then
      if essential rest = ['c'] then ['i', 's', 'c'] else essential rest
    else essential name
  | _ => essential name

/-- Whether two names differ only in what does not count. -/
def sameName (a b : String) : Bool := looseName a.toList == looseName b.toList

@[simp] theorem sameName_self (a : String) : sameName a a = true := by
  simp [sameName]

/-- The set of a name. -/
def findSet? (name : String) (sets : List NamedSet) : Option CodeRanges :=
  (sets.find? fun s => s.names.any (sameName name)).map NamedSet.members

@[simp] theorem findSet?_nil (name : String) : findSet? name [] = none := rfl

end SqlBuilder.Text
