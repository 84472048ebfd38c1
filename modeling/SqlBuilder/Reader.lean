import SqlBuilder.Record

/-! # Reading results row by row

A source delivers the rows of a result one at a time.  A `Reader` keeps the current row and the
number of rows read; it lets go of its source when the rows are used up or when it is disposed of,
and then stays at the end for ever.  A `RowStream` turns the rows into something else and ends at
the first row that fails. -/

namespace SqlBuilder

/-! ## Sources -/

/-- A failure that a source is going to have. -/
structure PlannedFault where
  /-- The number of successful fetches before it. -/
  after : Nat
  /-- Its message. -/
  message : String
deriving Repr, DecidableEq

/-- The rows of a result that were not delivered yet, and a failure to come, if any. -/
structure RowSource where
  /-- The remaining rows. -/
  rows : List Record
  /-- Whether the source was freed. -/
  freed : Bool
  /-- A failure to come. -/
  fault : Option PlannedFault

namespace RowSource

/-- The source of a list of rows. -/
def ofRows (rows : List Record) : RowSource := ⟨rows, false, none⟩

/-- The source of a list of rows that fails once, after some fetches. -/
def failing (rows : List Record) (after : Nat) (message : String) : RowSource :=
  ⟨rows, false, some ⟨after, message⟩⟩

/-- The next row, if there is one, and the source after it. -/
def nextRow (s : RowSource) : Option Record × RowSource :=
  if s.freed then (none, s)
  else match s.rows with
    | [] => (none, s)
    | r :: rest => (some r, { s with rows := rest })

/-- Fetch the next row.  A failure that is due comes first and is then forgotten. -/
def fetch (s : RowSource) : DbResult (Option Record) × RowSource :=
  match s.fault with
  | none =>
    let (row, s) := s.nextRow
    (.ok row, s)
  | some ⟨0, message⟩ => (.error (.query message), { s with fault := none })
  | some ⟨n + 1, message⟩ =>
    let (row, s) := s.nextRow
    (.ok row, { s with fault := some ⟨n, message⟩ })

/-- Give up the rows that were not delivered. -/
def free (s : RowSource) : RowSource := { s with rows := [], freed := true }

/-- The number of rows that were not delivered. -/
def remaining (s : RowSource) : Nat := s.rows.length

end RowSource

/-! ## Readers -/

/-- A position in a result. -/
structure Reader where
  /-- The source, until it is used up or given up. -/
  source : Option RowSource
  /-- The current row. -/
  record : Option Record
  /-- The number of rows read. -/
  rowsRead : Nat

namespace Reader

/-- A reader in front of the first row. -/
def ofSource (s : RowSource) : Reader := ⟨some s, none, 0⟩

/-- A reader in front of the first of some rows. -/
def ofRows (rows : List Record) : Reader := ofSource (.ofRows rows)

/-- Whether the reader has let go of its source. -/
def isDisposed (r : Reader) : Bool := r.source.isNone

/-- Let go of the source and of the current row. -/
def dispose (r : Reader) : Reader := ⟨none, none, r.rowsRead⟩

/-- Read the next row: whether there was one, and the reader after it.  A failure leaves the current
row where it is. -/
def read (r : Reader) : DbResult Bool × Reader :=
  match r.source with
  | none => (.ok false, ⟨none, none, r.rowsRead⟩)
  | some s =>
    match s.fetch with
    | (.error e, s) => (.error e, ⟨some s, r.record, r.rowsRead⟩)
    | (.ok (some row), s) => (.ok true, ⟨some s, some row, r.rowsRead + 1⟩)
    | (.ok none, _) => (.ok false, r.dispose)

/-- Take the current row out of the reader. -/
def takeRecord (r : Reader) : Option Record × Reader :=
  (r.record, ⟨r.source, none, r.rowsRead⟩)

/-- An upper bound on the number of reads that give a row. -/
def pending (r : Reader) : Nat := (r.source.map RowSource.remaining).getD 0

/-- Read at most `count` rows. -/
def collectUpTo (r : Reader) : Nat → DbResult (List Record)
  | 0 => .ok []
  | count + 1 =>
    match r.read with
    | (.error e, _) => .error e
    | (.ok false, _) => .ok []
    | (.ok true, next) =>
      (next.takeRecord.2.collectUpTo count).map fun rows => next.record.toList ++ rows

/-- All rows that were not read yet, or the first failure. -/
def collect (r : Reader) : DbResult (List Record) := r.collectUpTo (r.pending + 1)

end Reader

/-! ## Streams of rows -/

/-- Rows that are turned into something else as they are read. -/
structure RowStream where
  /-- The position in the result. -/
  reader : Reader

namespace RowStream

/-- Give up the rest of the rows. -/
def dispose (s : RowStream) : RowStream := ⟨s.reader.dispose⟩

/-- The next row turned into something else, or `none` at the end.  After a failure the stream is at
its end. -/
def next {α : Type} (hydrate : Record → DbResult α) (s : RowStream) :
    Option (DbResult α) × RowStream :=
  match s.reader.read with
  | (.ok true, reader) =>
    match hydrate (reader.record.getD .empty) with
    | .ok a => (some (.ok a), ⟨reader⟩)
    | .error e => (some (.error e), ⟨reader.dispose⟩)
  | (.ok false, reader) => (none, ⟨reader⟩)
  | (.error e, reader) => (some (.error e), ⟨reader.dispose⟩)

/-- The next items of the stream, at most `count`. -/
def takeItems {α : Type} (hydrate : Record → DbResult α) (s : RowStream) :
    Nat → List (DbResult α)
  | 0 => []
  | count + 1 =>
    match s.next hydrate with
    | (none, _) => []
    | (some item, rest) => item :: rest.takeItems hydrate count

/-- All items of the stream. -/
def toList {α : Type} (hydrate : Record → DbResult α) (s : RowStream) : List (DbResult α) :=
  s.takeItems hydrate (s.reader.pending + 2)

/-- The rows turned into something else, or the first failure. -/
def collect {α : Type} (hydrate : Record → DbResult α) (s : RowStream) : DbResult (List α) :=
  (s.toList hydrate).mapM id

end RowStream

end SqlBuilder
