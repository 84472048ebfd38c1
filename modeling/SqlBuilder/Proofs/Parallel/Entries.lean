import SqlBuilder.Entries
import SqlBuilder.Proofs.Parallel

/-! # Parallel cells

Cells of the same column with parallel values, and rows of such cells.  Giving a column parallel
values keeps rows alike, and look-ups in alike rows find parallel values or none. -/

namespace SqlBuilder

variable {d : Dialect} {P : String → String → Prop}

/-- Two cells of the same column with parallel values. -/
def CellAlike (d : Dialect) (P : String → String → Prop) (cell cell' : String × String) : Prop :=
  cell.1 = cell'.1 ∧ Parallel d P cell.2 cell'.2

/-- **Two rows with the same columns** and parallel values in them. -/
abbrev RowAlike (d : Dialect) (P : String → String → Prop) :
    Entries String String → Entries String String → Prop := List.Forall₂ (CellAlike d P)

/-- Related lists are both empty or both not. -/
theorem isEmpty_eq_of_forall₂ {α β : Type} {R : α → β → Prop} {l : List α} {l' : List β}
    (h : List.Forall₂ R l l') : l'.isEmpty = l.isEmpty := by
  cases h <;> rfl

namespace RowAlike

variable {row row' : Entries String String}

/-- Alike rows have the same columns. -/
theorem keys_eq (h : RowAlike d P row row') : row'.keys = row.keys := by
  induction h with
  | nil => rfl
  | cons hcell _ ih =>
    rw [Entries.keys, List.map_cons, ← hcell.1]
    exact congrArg _ ih

/-- **Parallel values for the same column keep rows alike.** -/
theorem put (h : RowAlike d P row row') (column : String) {sql sql' : String}
    (hsql : Parallel d P sql sql') :
    RowAlike d P (Entries.put column sql row) (Entries.put column sql' row') := by
  induction h with
  | nil => exact .cons ⟨rfl, hsql⟩ .nil
  | @cons cell cell' row row' hcell hrow ih =>
    obtain ⟨k, v⟩ := cell
    obtain ⟨k', v'⟩ := cell'
    obtain rfl : k = k' := hcell.1
    rw [Entries.put, Entries.put]
    split
    · exact .cons ⟨rfl, hsql⟩ hrow
    · exact .cons hcell ih

/-- Rows of alike cells, put in one after the other, are alike. -/
theorem ofPairs {cells cells' : List (String × String)}
    (h : List.Forall₂ (CellAlike d P) cells cells') :
    RowAlike d P (Entries.ofPairs cells) (Entries.ofPairs cells') := by
  rw [Entries.ofPairs, Entries.ofPairs]
  refine List.rel_foldl ?_ .nil h
  rintro row row' hrow ⟨column, sql⟩ ⟨column', sql'⟩ ⟨hcolumn, hsql⟩
  obtain rfl : column = column' := hcolumn
  exact RowAlike.put hrow column hsql

/-- **Look-ups in alike rows** find parallel values, or the same text in place of a missing one. -/
theorem find_getD (h : RowAlike d P row row') (column : String) {missing : String}
    (hmissing : IsPlain missing) :
    Parallel d P ((Entries.find column row).getD missing)
      ((Entries.find column row').getD missing) := by
  induction h with
  | nil => exact .plain hmissing
  | @cons cell cell' row row' hcell hrow ih =>
    obtain ⟨k, v⟩ := cell
    obtain ⟨k', v'⟩ := cell'
    obtain rfl : k = k' := hcell.1
    rw [Entries.find, Entries.find]
    split
    · exact hcell.2
    · exact ih

end RowAlike

end SqlBuilder
