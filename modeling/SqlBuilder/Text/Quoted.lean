import SqlBuilder.Text.Printable

/-! # Texts shown in quotes

A text is shown between double quotes.  The quote and the backslash follow a backslash, four
controls have a letter of their own, and every other character that is not shown as it is appears by
its code point. -/

namespace SqlBuilder.Text

/-- A character by its code point in hexadecimal digits. -/
def codePointEscape (c : Char) : List Char :=
  ['\\', 'u', '\x7b'] ++ Nat.toDigits 16 c.toNat ++ ['\x7d']

/-- A character of a text in quotes. -/
def shownChar (c : Char) : List Char :=
  if c = '"' then ['\\', '"']
  else if c = '\\' then ['\\', '\\']
  else if c = '\n' then ['\\', 'n']
  else if c = '\r' then ['\\', 'r']
  else if c = '\t' then ['\\', 't']
  else if c = '\x00' then ['\\', '0']
  else if isShownAsIs c then [c]
  else codePointEscape c

/-- A text in quotes. -/
def quoted (s : String) : String :=
  String.ofList ('"' :: (s.toList.flatMap shownChar ++ ['"']))

end SqlBuilder.Text
