import SqlBuilder.Literal
import SqlBuilder.Lock

/-! # The marks of the dialects

What a dialect puts around names, texts and bytes, and what it sends to unlock tables, is looked up
by what writes statements and by what reads them back alike.  The table below says it in full
(`Dialect.marks_all`), so it cannot change for both unnoticed.  What holds of every row of the table
holds of every dialect (`Dialect.of_marksTable`). -/

namespace SqlBuilder

/-- What a dialect puts around names, texts and bytes, and what it sends to unlock tables. -/
structure DialectMarks where
  /-- The quotes around a name. -/
  quotes : Dialect.Quotes
  /-- How special characters are protected in a text. -/
  escape : TextEscape
  /-- What stands before and behind the digits of bytes. -/
  blob : String × String
  /-- The statements that unlock tables. -/
  unlocks : List String
deriving Repr, DecidableEq

/-- The marks of a dialect. -/
def Dialect.marks (d : Dialect) : DialectMarks :=
  ⟨d.quotes, d.textEscape, d.blobMarks, d.unlockStatements⟩

/-- The marks by the names of the dialects. -/
def marksTable : List (String × DialectMarks) :=
  [("Standard", ⟨⟨'"', '"'⟩, .doubling, ("X'", "'"), []⟩),
    ("DB2", ⟨⟨'"', '"'⟩, .doubling, ("BX'", "'"), []⟩),
    ("Firebird", ⟨⟨'"', '"'⟩, .doubling, ("X'", "'"), []⟩),
    ("MariaDB", ⟨⟨'\x60', '\x60'⟩, .backslash, ("X'", "'"), ["UNLOCK TABLES"]⟩),
    ("MsSQL", ⟨⟨'[', ']'⟩, .doubling, ("0x", ""), []⟩),
    ("MySQL", ⟨⟨'\x60', '\x60'⟩, .backslash, ("X'", "'"), ["UNLOCK TABLES"]⟩),
    ("Oracle", ⟨⟨'"', '"'⟩, .doubling, ("HEXTORAW('", "')"), []⟩),
    ("PostgreSQL", ⟨⟨'"', '"'⟩, .doubling, ("'\\x", "'::bytea"), []⟩),
    ("SQLite", ⟨⟨'"', '"'⟩, .doubling, ("X'", "'"), []⟩)]

/-- **The marks of all dialects are those of the table**, and a name may come in the quotes of any
of them. -/
theorem Dialect.marks_all :
    Dialect.all.map (fun d => (d.name, d.marks)) = marksTable ∧
    knownQuotes = (marksTable.map fun row => row.2.quotes).eraseDups := by
  decide

/-- What holds of every row of the table holds of every dialect. -/
theorem Dialect.of_marksTable {P : DialectMarks → Prop} (h : ∀ row ∈ marksTable, P row.2)
    (d : Dialect) : P d.marks := by
  have hrow : (d.name, d.marks) ∈ marksTable := by
    rw [← Dialect.marks_all.1]
    exact List.mem_map_of_mem d.mem_all
  exact h _ hrow

namespace Dialect

/-- The quotes of a dialect are known. -/
theorem quotes_mem_knownQuotes (d : Dialect) : d.quotes ∈ knownQuotes :=
  d.of_marksTable (P := fun m => m.quotes ∈ knownQuotes) (by decide)

/-- A dot is no quote. -/
theorem dot_ne_quotes (d : Dialect) :
    '.' ≠ singleQuote ∧ '.' ≠ d.quotes.opening ∧ '.' ≠ d.quotes.closing :=
  d.of_marksTable
    (P := fun m => '.' ≠ singleQuote ∧ '.' ≠ m.quotes.opening ∧ '.' ≠ m.quotes.closing)
    (by decide)

/-- No statement that unlocks tables ends a transaction. -/
theorem not_mem_unlockStatements (d : Dialect) :
    "COMMIT" ∉ d.unlockStatements ∧ "ROLLBACK" ∉ d.unlockStatements :=
  d.of_marksTable (P := fun m => "COMMIT" ∉ m.unlocks ∧ "ROLLBACK" ∉ m.unlocks) (by decide)

end Dialect

end SqlBuilder
