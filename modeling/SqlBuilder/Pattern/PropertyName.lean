import SqlBuilder.Pattern.Flags
import SqlBuilder.Text.Property

/-! # Properties in a written pattern

An escape names a set of characters by a property: by one letter, or in braces by a name or by a
property and its value. -/

namespace SqlBuilder.Pattern

open Text (CodeRanges)

/-- The texts before and after the first `!=`, if there is one. -/
def cutUnequal : List Char → Option (List Char × List Char)
  | [] => none
  | '!' :: '=' :: rest => some ([], rest)
  | c :: rest => (cutUnequal rest).map fun cut => (c :: cut.1, cut.2)

/-- The set of a name.  A property and its value are parted by `!=`, else by a colon, else
by an equals sign; the three mean the same. -/
def setOfName? (name : List Char) : Option CodeRanges :=
  match cutUnequal name <|> Text.cutFirst ':' name <|> Text.cutFirst '=' name with
  | some (property, value) => Text.valueSet? (String.ofList property) (String.ofList value)
  | none => Text.namedSet? (String.ofList name)

/-- Read the name of a set: one character, or any number of them in braces. -/
def readName (flags : Flags) (cs : List Char) : Option (List Char × List Char) :=
  match flags.skip cs with
  | '\x7b' :: rest =>
    let isNameChar := fun c =>
      c != '\x7d' && !(flags.freeSpacing && (Text.isBlank c || c == '#'))
    match flags.gather isNameChar rest.length false rest with
    | (name, '\x7d' :: rest) => some (name, rest)
    | _ => none
  | '\\' :: _ => none
  | c :: rest => some ([c], rest)
  | [] => none

/-- Read a set after the escape for properties.  ASCII flags have no such sets. -/
def readProperty (flags : Flags) (negated : Bool) (cs : List Char) :
    Option (CodeRanges × List Char) := do
  let (name, rest) ← readName flags cs
  if flags.unicode then
    return (← flags.foldAndNegate negated (← setOfName? name), rest)
  else none

end SqlBuilder.Pattern
