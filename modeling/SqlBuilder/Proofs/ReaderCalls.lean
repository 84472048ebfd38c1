import Mathlib.Data.List.Induction
import SqlBuilder.Reader

/-! # Calls on a reader

A user of a reader calls its operations in any order.  Whatever the order, a reader of a list of
rows is in one of two states: between two rows, with the last one still there or taken
(`Reader.within`), or disposed of (`Reader.ended`).  What a call does in each of them gives the
account of a whole run: every row is delivered once and in order, and what has ended stays so
(`Reader.keeps_place`). -/

namespace SqlBuilder

/-! ## Runs of calls -/

/-- A call on a reader. -/
inductive ReaderCall where
  | read
  | record
  | takeRecord
  | rowsRead
  | isDisposed
  | dispose
deriving DecidableEq

/-- Whether a call can change which row is the current one. -/
def ReaderCall.movesRecord : ReaderCall → Bool
  | .read | .takeRecord | .dispose => true
  | .record | .rowsRead | .isDisposed => false

/-- The last call that could change the current row. -/
def ReaderCall.lastMove (calls : List ReaderCall) : Option ReaderCall :=
  (calls.filter movesRecord).getLast?

/-- What a call answers. -/
inductive ReaderAnswer where
  /-- Whether a row was read, or the failure. -/
  | outcome (result : DbResult Bool)
  /-- The current row. -/
  | row (current : Option Record)
  /-- The number of rows read. -/
  | count (n : Nat)
  /-- Whether the reader is disposed of. -/
  | flag (disposed : Bool)
  /-- Nothing. -/
  | done

/-- A call that was made, with its answer and the row that is the current one after it. -/
structure ReaderEvent where
  /-- The call. -/
  call : ReaderCall
  /-- Its answer. -/
  answer : ReaderAnswer
  /-- The current row afterwards. -/
  current : Option Record

namespace ReaderEvent

/-- Whether the call was a read that found a row. -/
def isDelivery (e : ReaderEvent) : Bool :=
  match e.answer with
  | .outcome (.ok true) => true
  | _ => false

/-- Whether the call was a read that found no row. -/
def isEnd (e : ReaderEvent) : Bool :=
  match e.answer with
  | .outcome (.ok false) => true
  | _ => false

/-- **The rows that reads made the current ones**, in order. -/
def delivered (events : List ReaderEvent) : List (Option Record) :=
  (events.filter isDelivery).map current

variable {e : ReaderEvent}

/-- A read that finds a row delivers it. -/
theorem delivered_concat (events : List ReaderEvent) (h : e.isDelivery = true) :
    delivered (events ++ [e]) = delivered events ++ [e.current] := by
  simp [delivered, h]

/-- Any other call delivers nothing. -/
theorem delivered_concat_of_not (events : List ReaderEvent) (h : e.isDelivery = false) :
    delivered (events ++ [e]) = delivered events := by
  simp [delivered, h]

end ReaderEvent

namespace Reader

/-- The answer to a call, and the reader after it. -/
def answer (r : Reader) : ReaderCall → ReaderAnswer × Reader
  | .read => (.outcome r.read.1, r.read.2)
  | .record => (.row r.record, r)
  | .takeRecord => (.row r.takeRecord.1, r.takeRecord.2)
  | .rowsRead => (.count r.rowsRead, r)
  | .isDisposed => (.flag r.isDisposed, r)
  | .dispose => (.done, r.dispose)

/-- What a call does, and the reader after it. -/
def step (r : Reader) (call : ReaderCall) : ReaderEvent × Reader :=
  (⟨call, (r.answer call).1, (r.answer call).2.record⟩, (r.answer call).2)

/-- **What a sequence of calls does**, and the reader after it. -/
def run (r : Reader) : List ReaderCall → List ReaderEvent × Reader
  | [] => ([], r)
  | call :: rest =>
    ((r.step call).1 :: ((r.step call).2.run rest).1, ((r.step call).2.run rest).2)

/-- A run of one more call. -/
theorem run_concat (r : Reader) (calls : List ReaderCall) (call : ReaderCall) :
    r.run (calls ++ [call]) =
      ((r.run calls).1 ++ [((r.run calls).2.step call).1], ((r.run calls).2.step call).2) := by
  induction calls generalizing r with
  | nil => rfl
  | cons first rest ih =>
    rw [List.cons_append, run, ih, run]
    rfl

/-! ## The two states -/

/-- A reader behind the first rows of a list, with the last of them or without it. -/
def within (rows : List Record) (k : Nat) (holds : Bool) : Reader :=
  ⟨some (.ofRows (rows.drop k)), if holds then rows[k - 1]? else none, k⟩

/-- A reader that is disposed of. -/
def ended (k : Nat) : Reader := ⟨none, none, k⟩

variable {rows : List Record} {k : Nat} {holds : Bool}

/-- Reading goes to the next row if there is one. -/
theorem read_within_of_lt (h : k < rows.length) (holds : Bool) :
    (within rows k holds).read = (.ok true, within rows (k + 1) true) := by
  have hfetch : (RowSource.ofRows (rows.drop k)).fetch =
      (.ok (some rows[k]), RowSource.ofRows (rows.drop (k + 1))) := by
    rw [List.drop_eq_getElem_cons h]
    rfl
  simp [read, within, hfetch, h]

/-- Reading behind the last row disposes of the reader. -/
theorem read_within_of_le (h : rows.length ≤ k) (holds : Bool) :
    (within rows k holds).read = (.ok false, ended k) := by
  have hfetch : (RowSource.ofRows (rows.drop k)).fetch = (.ok none, RowSource.ofRows []) := by
    rw [List.drop_eq_nil_of_le h]
    rfl
  simp [read, within, hfetch, dispose, ended]

/-- Reading finds a row iff there is another one. -/
theorem read_within (rows : List Record) (k : Nat) (holds : Bool) :
    (within rows k holds).read.1 = .ok (decide (k < rows.length)) := by
  by_cases h : k < rows.length
  · rw [read_within_of_lt h, decide_eq_true h]
  · rw [read_within_of_le (Nat.le_of_not_lt h), decide_eq_false h]

/-- Between two rows a reader is not disposed of. -/
@[simp] theorem isDisposed_within : (within rows k holds).isDisposed = false := rfl

/-- The current row between two rows. -/
@[simp] theorem record_within :
    (within rows k holds).record = if holds then rows[k - 1]? else none := rfl

@[simp] theorem rowsRead_within : (within rows k holds).rowsRead = k := rfl

@[simp] theorem isDisposed_ended : (ended k).isDisposed = true := rfl

@[simp] theorem record_ended : (ended k).record = none := rfl

@[simp] theorem rowsRead_ended : (ended k).rowsRead = k := rfl

/-- No call changes a reader that is disposed of. -/
@[simp] theorem step_ended (k : Nat) (call : ReaderCall) : ((ended k).step call).2 = ended k := by
  cases call <;> rfl

/-- **A reader that is disposed of stays so**, and every read says that there is no row. -/
theorem run_ended (k : Nat) (calls : List ReaderCall) :
    ((ended k).run calls).2 = ended k ∧
      ∀ e ∈ ((ended k).run calls).1, e.call = .read → e.isEnd = true := by
  induction calls with
  | nil => simp [run]
  | cons call rest ih =>
    rw [run, step_ended]
    refine ⟨ih.1, ?_⟩
    intro e he hread
    rcases List.mem_cons.1 he with rfl | he
    · cases call with
      | read => rfl
      | _ => cases hread
    · exact ih.2 e he hread

/-! ## All that is left -/

/-- A row that is handed out leaves one fewer to come. -/
theorem remaining_of_nextRow {s : RowSource} {row : Record} (h : s.nextRow.1 = some row) :
    s.nextRow.2.remaining + 1 = s.remaining := by
  obtain ⟨rows, freed, fault⟩ := s
  cases freed with
  | true => cases h
  | false =>
    cases rows with
    | nil => cases h
    | cons first rest => rfl

/-- A row that is fetched leaves one fewer to come. -/
theorem remaining_of_fetch {s s' : RowSource} {row : Record}
    (h : s.fetch = (.ok (some row), s')) : s'.remaining + 1 = s.remaining := by
  obtain ⟨rows, freed, fault⟩ := s
  match fault, h with
  | none, h =>
    obtain ⟨hrow, rfl⟩ := Prod.mk.inj h
    exact remaining_of_nextRow (Except.ok.inj hrow)
  | some ⟨0, message⟩, h => cases h
  | some ⟨n + 1, message⟩, h =>
    obtain ⟨hrow, rfl⟩ := Prod.mk.inj h
    exact remaining_of_nextRow (Except.ok.inj hrow)

/-- A read that finds a row leaves one fewer to come, also when the row is taken. -/
theorem pending_of_read {r next : Reader} (h : r.read = (.ok true, next)) :
    next.takeRecord.2.pending + 1 = r.pending := by
  obtain ⟨source, record, n⟩ := r
  cases source with
  | none => cases h
  | some s =>
    simp only [read] at h
    split at h
    · cases h
    · rename_i hfetch
      cases h
      exact remaining_of_fetch hfetch
    · cases h

/-- **Collecting is reading until no row is found**, where each row is taken out of the reader. -/
theorem collect_eq_read (r : Reader) :
    r.collect = match r.read with
      | (.error e, _) => .error e
      | (.ok false, _) => .ok []
      | (.ok true, next) =>
        next.takeRecord.2.collect.map fun rows => next.record.toList ++ rows := by
  rw [collect, collectUpTo]
  rcases hread : r.read with ⟨result, next⟩
  match result, hread with
  | .error e, _ => rfl
  | .ok false, _ => rfl
  | .ok true, hread =>
    simp only [collect, pending_of_read hread]

/-- A reader between two rows collects the rows behind it. -/
theorem collect_within (rows : List Record) (k : Nat) (holds : Bool) :
    (within rows k holds).collect = .ok (rows.drop k) := by
  rw [collect_eq_read]
  by_cases h : k < rows.length
  · have htaken : (within rows (k + 1) true).takeRecord.2 = within rows (k + 1) false := rfl
    have hrecord : (within rows (k + 1) true).record = some rows[k] := by simp [h]
    rw [read_within_of_lt h]
    simp only [htaken, hrecord, collect_within rows (k + 1) false]
    rw [List.drop_eq_getElem_cons h]
    rfl
  · rw [read_within_of_le (Nat.le_of_not_lt h), List.drop_eq_nil_of_le (Nat.le_of_not_lt h)]
termination_by rows.length - k

/-- A reader that is disposed of collects nothing. -/
theorem collect_ended (k : Nat) : (ended k).collect = .ok [] := rfl

/-! ## Whole runs -/

/-- The state that some calls, which had these effects, lead to. -/
inductive Place (rows : List Record) (calls : List ReaderCall) (events : List ReaderEvent) :
    Reader → Prop where
  /-- Nothing has ended. -/
  | within {k : Nat} (hle : k ≤ rows.length)
    (hdelivered : ReaderEvent.delivered events = (rows.take k).map some)
    (hcalls : .dispose ∉ calls) (hevents : ∀ e ∈ events, e.isEnd = false) :
    Place rows calls events (within rows k (decide (ReaderCall.lastMove calls = some .read)))
  /-- A call or the rows came to an end. -/
  | ended {k : Nat} (hle : k ≤ rows.length)
    (hdelivered : ReaderEvent.delivered events = (rows.take k).map some)
    (hended : .dispose ∈ calls ∨ ∃ e ∈ events, e.isEnd = true) :
    Place rows calls events (ended k)

namespace Place

variable {calls : List ReaderCall} {events : List ReaderEvent} {r : Reader}

/-- A reader in front of the first row is where no calls lead to. -/
theorem init (rows : List Record) : Place rows [] [] (ofRows rows) :=
  within (Nat.zero_le _) rfl (by simp) (by simp)

/-- A call after which the reader is between two rows. -/
theorem concat_within {k : Nat} {holds : Bool} {call : ReaderCall} {e : ReaderEvent}
    (hle : k ≤ rows.length)
    (hdelivered : ReaderEvent.delivered (events ++ [e]) = (rows.take k).map some)
    (hcalls : .dispose ∉ calls) (hevents : ∀ e ∈ events, e.isEnd = false)
    (hcall : call ≠ .dispose) (hend : e.isEnd = false)
    (hholds : holds = decide (ReaderCall.lastMove (calls ++ [call]) = some .read)) :
    Place rows (calls ++ [call]) (events ++ [e]) (Reader.within rows k holds) := by
  rw [hholds]
  refine within hle hdelivered ?_ ?_
  · simp [hcalls, hcall.symm]
  · intro e' he'
    rcases List.mem_append.1 he' with he' | he'
    · exact hevents e' he'
    · rw [List.mem_singleton.1 he', hend]

/-- **One more call** leads from place to place. -/
theorem step (h : Place rows calls events r) (call : ReaderCall) :
    Place rows (calls ++ [call]) (events ++ [(r.step call).1]) (r.step call).2 := by
  cases h with
  | @ended k hle hdelivered hended =>
    have hnone : (((Reader.ended k).step call).1).isDelivery = false := by cases call <;> rfl
    rw [step_ended]
    refine ended hle ?_ ?_
    · rw [ReaderEvent.delivered_concat_of_not _ hnone, hdelivered]
    · rcases hended with hcall | ⟨e, he, hend⟩
      · exact Or.inl (List.mem_append_left _ hcall)
      · exact Or.inr ⟨e, List.mem_append_left _ he, hend⟩
  | @within k hle hdelivered hcalls hevents =>
    -- A call that only looks at the reader.
    have looks : ∀ c : ReaderCall, c.movesRecord = false → ∀ e : ReaderEvent,
        e.isDelivery = false → e.isEnd = false → Place rows (calls ++ [c]) (events ++ [e])
          (Reader.within rows k (decide (ReaderCall.lastMove calls = some .read))) := by
      intro c hmoves e hnone hend
      refine concat_within hle ?_ hcalls hevents ?_ hend ?_
      · rw [ReaderEvent.delivered_concat_of_not _ hnone, hdelivered]
      · rintro rfl
        cases hmoves
      · simp [ReaderCall.lastMove, hmoves]
    cases call with
    | read =>
      by_cases hlt : k < rows.length
      · have hread := read_within_of_lt hlt (decide (ReaderCall.lastMove calls = some .read))
        simp only [Reader.step, Reader.answer, hread]
        refine concat_within hlt ?_ hcalls hevents (by simp) rfl ?_
        · have hcurrent : (Reader.within rows (k + 1) true).record = some rows[k] := by simp [hlt]
          rw [ReaderEvent.delivered_concat _ rfl, hdelivered, hcurrent,
            List.take_succ_eq_append_getElem hlt, List.map_append]
          rfl
        · simp [ReaderCall.lastMove, ReaderCall.movesRecord]
      · have hread := read_within_of_le (Nat.le_of_not_lt hlt)
          (decide (ReaderCall.lastMove calls = some .read))
        simp only [Reader.step, Reader.answer, hread]
        refine ended hle ?_ ?_
        · rw [ReaderEvent.delivered_concat_of_not _ rfl, hdelivered]
        · exact Or.inr ⟨_, List.mem_append_right _ (List.mem_singleton_self _), rfl⟩
    | record => exact looks .record rfl _ rfl rfl
    | rowsRead => exact looks .rowsRead rfl _ rfl rfl
    | isDisposed => exact looks .isDisposed rfl _ rfl rfl
    | takeRecord =>
      have htaken : ((Reader.within rows k
          (decide (ReaderCall.lastMove calls = some .read))).step .takeRecord).2
            = Reader.within rows k false := rfl
      rw [htaken]
      refine concat_within hle ?_ hcalls hevents (by simp) rfl ?_
      · rw [ReaderEvent.delivered_concat_of_not _ rfl, hdelivered]
      · simp [ReaderCall.lastMove, ReaderCall.movesRecord]
    | dispose =>
      refine ended (k := k) hle ?_ ?_
      · rw [ReaderEvent.delivered_concat_of_not _ rfl, hdelivered]
      · exact Or.inl (List.mem_append_right _ (List.mem_singleton_self _))

/-- **A run of calls** leads to one of the two states. -/
theorem run (rows : List Record) (calls : List ReaderCall) :
    Place rows calls ((ofRows rows).run calls).1 ((ofRows rows).run calls).2 := by
  induction calls using List.reverseRecOn with
  | nil => exact init rows
  | append_singleton before call ih =>
    rw [run_concat]
    exact ih.step call

end Place

/-- **Where a reader of some rows is after some calls.** -/
structure KeepsPlace (rows : List Record) (calls : List ReaderCall) (events : List ReaderEvent)
    (r : Reader) : Prop where
  /-- The rows that were delivered are the first ones, each of them once and in order. -/
  delivered_eq : ReaderEvent.delivered events = (rows.take r.rowsRead).map some
  /-- The reader counts the reads that found a row. -/
  rowsRead_eq : r.rowsRead = (ReaderEvent.delivered events).length
  /-- The reader is disposed of by a call to that end, or by a read that found no row. -/
  isDisposed_iff : r.isDisposed = true ↔ .dispose ∈ calls ∨ ∃ e ∈ events, e.isEnd = true
  /-- A read does not fail, and it finds a row iff the reader is not disposed of and not all rows
  were delivered. -/
  read_eq : r.read.1 = .ok (!r.isDisposed && decide (r.rowsRead < rows.length))
  /-- A read that finds a row makes the next row the current one. -/
  record_of_read : r.read.1 = .ok true → r.read.2.record = rows[r.rowsRead]?
  /-- The current row is the last one that was delivered, until it is taken or given up. -/
  record_eq : r.record =
    if r.isDisposed = false ∧ ReaderCall.lastMove calls = some .read then rows[r.rowsRead - 1]?
    else none
  /-- A reader that is disposed of has no current row, and disposing of it again changes nothing. -/
  of_isDisposed : r.isDisposed = true → r.record = none ∧ r.dispose = r
  /-- A reader that is disposed of stays as it is, and all later reads find no row. -/
  run_of_isDisposed : r.isDisposed = true → ∀ more, (r.run more).2 = r ∧
    ∀ e ∈ (r.run more).1, e.call = .read → e.isEnd = true
  /-- The rows that can still be collected are those that were not delivered, or none. -/
  collect_eq : r.collect = .ok (if r.isDisposed then [] else rows.drop r.rowsRead)

variable {calls : List ReaderCall} {events : List ReaderEvent} {r : Reader}

/-- Between two rows everything is as the account says. -/
theorem KeepsPlace.within {k : Nat} (hle : k ≤ rows.length)
    (hdelivered : ReaderEvent.delivered events = (rows.take k).map some)
    (hcalls : .dispose ∉ calls) (hevents : ∀ e ∈ events, e.isEnd = false) :
    KeepsPlace rows calls events
      (within rows k (decide (ReaderCall.lastMove calls = some .read))) where
  delivered_eq := hdelivered
  rowsRead_eq := by simp [hdelivered, hle]
  isDisposed_iff := by simpa [hcalls] using hevents
  read_eq := read_within rows k _
  record_of_read := by
    intro hfound
    have hlt : k < rows.length := by simpa [read_within] using hfound
    simp [read_within_of_lt hlt]
  record_eq := by simp
  of_isDisposed := by simp
  run_of_isDisposed := by simp
  collect_eq := by simp [collect_within]

/-- At the end everything is as the account says. -/
theorem KeepsPlace.ended {k : Nat} (hle : k ≤ rows.length)
    (hdelivered : ReaderEvent.delivered events = (rows.take k).map some)
    (hended : .dispose ∈ calls ∨ ∃ e ∈ events, e.isEnd = true) :
    KeepsPlace rows calls events (ended k) where
  delivered_eq := hdelivered
  rowsRead_eq := by simp [hdelivered, hle]
  isDisposed_iff := by simpa using hended
  read_eq := rfl
  record_of_read := by
    intro hfound
    cases hfound
  record_eq := by simp
  of_isDisposed := fun _ => ⟨rfl, rfl⟩
  run_of_isDisposed := fun _ => run_ended k
  collect_eq := collect_ended k

/-- **A reader delivers every row once and in order**, whatever is called on it, and once it is
disposed of it stays so. -/
theorem keeps_place (rows : List Record) (calls : List ReaderCall) :
    KeepsPlace rows calls ((ofRows rows).run calls).1 ((ofRows rows).run calls).2 := by
  have hplace := Place.run rows calls
  generalize (ofRows rows).run calls = outcome at hplace ⊢
  obtain ⟨events, r⟩ := outcome
  cases hplace with
  | within hle hdelivered hcalls hevents => exact .within hle hdelivered hcalls hevents
  | ended hle hdelivered hended => exact .ended hle hdelivered hended

end Reader

end SqlBuilder
