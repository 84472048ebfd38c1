import Mathlib.Data.List.TakeDrop
import SqlBuilder.Proofs.CollectedResults
import SqlBuilder.Proofs.ReaderCalls
import SqlBuilder.Proofs.UniqueChecks

/-! # Rows that become objects

A stream of rows turns one row into an object with each call.  It goes up to the first row that
fails, or through all rows if none does, and no later call reaches a row (`RowStream.run_ofRows`).
So the objects of a query are those of all rows or the first failure, and the object with a key is
there iff the query for it has one row, which does not fail (`Model.objects_of_rows`). -/

namespace SqlBuilder

/-- **The elements up to the first failure**: all of them if there is none. -/
def upToFailure {ε α β : Type} (f : α → Except ε β) : List α → List α
  | [] => []
  | a :: rest =>
    match f a with
    | .ok _ => a :: upToFailure f rest
    | .error _ => [a]

/-! ## Calls on a stream -/

/-- What a call on a stream does. -/
structure StreamEvent (α : Type) where
  /-- The row that the call turns into something else, if it reaches one. -/
  row : Option Record
  /-- Its answer. -/
  answer : Option (DbResult α)

namespace StreamEvent

/-- A call that turns a row into something else, or finds that it fails. -/
def ofRow {α : Type} (hydrate : Record → DbResult α) (row : Record) : StreamEvent α :=
  ⟨some row, some (hydrate row)⟩

/-- A call at the end, which reaches no row. -/
def atEnd {α : Type} : StreamEvent α := ⟨none, none⟩

end StreamEvent

namespace RowStream

variable {α : Type}

/-- **The row that the next call turns into something else**, if it reaches one. -/
def nextRow (s : RowStream) : Option Record :=
  match s.reader.read with
  | (.ok true, reader) => some (reader.record.getD .empty)
  | _ => none

/-- **No other row has any influence on the next call.** -/
theorem next_congr {hydrate hydrate' : Record → DbResult α} {s : RowStream}
    (h : ∀ row ∈ s.nextRow, hydrate row = hydrate' row) : s.next hydrate = s.next hydrate' := by
  rw [next, next]
  rcases hread : s.reader.read with ⟨result, reader⟩
  cases result with
  | error e => rfl
  | ok more =>
    cases more with
    | false => rfl
    | true =>
      have hrow : s.nextRow = some (reader.record.getD .empty) := by rw [nextRow, hread]
      simp only [h _ hrow]

/-- **What a number of calls do**, one after the other. -/
def run (hydrate : Record → DbResult α) (s : RowStream) : Nat → List (StreamEvent α)
  | 0 => []
  | n + 1 => ⟨s.nextRow, (s.next hydrate).1⟩ :: (s.next hydrate).2.run hydrate n

variable (hydrate : Record → DbResult α) {rows : List Record} {k : Nat} {holds : Bool}

/-- **What has ended stays so.** -/
theorem run_ended (k n : Nat) :
    (mk (.ended k)).run hydrate n = List.replicate n StreamEvent.atEnd := by
  induction n with
  | zero => rfl
  | succ n ih => exact congrArg (StreamEvent.atEnd :: ·) ih

/-- **A stream between two rows** goes on up to the first failure and then ends. -/
theorem run_within (rows : List Record) (k : Nat) (holds : Bool) (n : Nat) :
    (mk (.within rows k holds)).run hydrate n
      = ((upToFailure hydrate (rows.drop k)).map (.ofRow hydrate)).takeD n .atEnd := by
  induction n generalizing k holds with
  | zero => rfl
  | succ n ih =>
    by_cases h : k < rows.length
    · have hread := Reader.read_within_of_lt h holds
      have hrecord : (Reader.within rows (k + 1) true).record = some rows[k] := by simp [h]
      rw [run, nextRow, next, hread, List.drop_eq_getElem_cons h, upToFailure]
      dsimp only
      rw [hrecord, Option.getD_some]
      cases hresult : hydrate rows[k] with
      | ok a =>
        dsimp only
        rw [ih, List.map_cons, List.takeD_succ, StreamEvent.ofRow, hresult]
        rfl
      | error e =>
        have hdispose : (Reader.within rows (k + 1) true).dispose = .ended (k + 1) := rfl
        dsimp only
        rw [hdispose, run_ended, List.map_cons, List.takeD_succ, StreamEvent.ofRow, hresult]
        simp
    · have hread := Reader.read_within_of_le (Nat.le_of_not_lt h) holds
      rw [run, nextRow, next, hread, List.drop_eq_nil_of_le (Nat.le_of_not_lt h)]
      dsimp only
      rw [run_ended]
      simp [upToFailure, StreamEvent.atEnd]

/-- **A stream of rows turns them into something else up to the first failure** and then reaches no
row any more. -/
theorem run_ofRows (rows : List Record) (n : Nat) :
    (mk (.ofRows rows)).run hydrate n
      = ((upToFailure hydrate rows).map (.ofRow hydrate)).takeD n .atEnd :=
  run_within hydrate rows 0 false n

end RowStream

/-! ## Objects -/

namespace Model

variable {α : Type} {m : Model α} {c : Connection} {sql : String} {rows : List Record}

/-- **A query is sent once**, and its rows become objects one after the other. -/
theorem runOn_fetch {s : Select} (hs : s.statement false = .ok sql)
    (hrows : c.rowsOf sql = .ok rows) :
    (m.fetch s).runOn c = ((rows.mapM m.hydrate).mapError .database, c.logged [sql]) := by
  have hopen := Select.runOn_open hs c
  rw [hrows] at hopen
  have hfetch : (s.fetch m.hydrate).runOn c = (rows.mapM m.hydrate, c.logged [sql]) := by
    rw [Select.fetch, Exchange.runOn_bind_of_ok hopen, Exchange.runOn_ofResult,
      RowStream.collect_ofRows]
  exact Exchange.runOn_mapError hfetch _

/-- Failures of the database differ as their causes do. -/
theorem mapError_database_inj {β : Type} {x y : DbResult β}
    (h : x.mapError ModelError.database = y.mapError .database) : x = y := by
  cases x with
  | ok a => cases y <;> cases h; rfl
  | error e => cases y <;> cases h; rfl

/-- **What looking for the object with a key gives**, from the rows of the query for it. -/
inductive Gets (m : Model α) : List Record → ModelResult α → Prop
  /-- No row: there is no object. -/
  | none : Gets m [] (.error .notFound)
  /-- One row: there is the object. -/
  | one {row : Record} {object : α} (h : m.hydrate row = .ok object) : Gets m [row] (.ok object)
  /-- Several rows, none of which fails: there are too many objects. -/
  | several {first second : Record} {rest : List Record}
    (h : ∀ row ∈ first :: second :: rest, (m.hydrate row).isOk = true) :
    Gets m (first :: second :: rest) (.error .multipleObjects)
  /-- A row that fails, whatever the number of rows: the first such failure. -/
  | failure (before : List Record) {after : List Record} {row : Record} {e : DbError}
    (hbefore : ∀ b ∈ before, (m.hydrate b).isOk = true) (hrow : m.hydrate row = .error e) :
    Gets m (before ++ row :: after) (.error (.database e))

/-- The only object of a list. -/
def only : List α → ModelResult α
  | [] => .error .notFound
  | [object] => .ok object
  | _ => .error .multipleObjects

/-- The only object is that of the only row. -/
theorem bind_only_eq_iff {outcome : ModelResult α} :
    ((rows.mapM m.hydrate).mapError .database).bind only = outcome ↔ m.Gets rows outcome := by
  constructor
  · rintro rfl
    generalize hobjects : rows.mapM m.hydrate = objects
    have hcollects := Collects.of_mapM m.hydrate rows
    rw [hobjects] at hcollects
    cases hcollects with
    | failure before hbefore hrow => exact .failure before hbefore hrow
    | all h =>
      have hok := Collects.isOk_of_forall₂ h
      cases h with
      | nil => exact .none
      | cons hfirst hrest =>
        cases hrest with
        | nil => exact .one hfirst
        | cons _ _ => exact .several hok
  · intro h
    cases h with
    | none => rfl
    | one h => rw [List.mapM_cons, h]; rfl
    | several h =>
      obtain ⟨objects, hobjects, hmapM⟩ := Collects.exists_mapM_of_forall h
      rw [hmapM]
      cases hobjects with
      | cons _ hrest => cases hrest with | cons _ _ => rfl
    | failure before hbefore hrow => rw [Collects.mapM_of_failure hbefore hrow]; rfl

/-- The query for a key has a text. -/
theorem exists_statement_keyQuery (m : Model α) (d : Dialect) (column : String) (key : Value) :
    ∃ sql, (m.keyQuery d column key).statement false = .ok sql := by
  have hrun : m.keyQuery d column key = (Select.new d).run [.columns m.columns,
      .fromTable m.tableRef, .filter (.compare .and column .equal key), .limit 2] := rfl
  rw [hrun]
  refine (Select.succeedsIff_statement d _ false).exists_eq_ok_iff.2
    ⟨(Select.misuse_run d _).1 rfl, (Query.listsRender_iff _).2 ⟨⟨?_, ?_⟩, ?_⟩⟩
  · exact ⟨_, Predicates.render_push _ _⟩
  · exact Predicates.renders_empty
  · rintro part ⟨⟩

/-- **The query for a key is sent once**, and its only row becomes the object. -/
theorem runOn_get {column : String} (hcolumn : m.primaryKey = .ok column) {key : Value}
    (hs : (m.keyQuery c.dialect column key).statement false = .ok sql)
    (hrows : c.rowsOf sql = .ok rows) :
    (m.get key).runOn c
      = (((rows.mapM m.hydrate).mapError .database).bind only, c.logged [sql]) := by
  have hfetch := runOn_fetch (m := m) hs hrows
  rw [get, Exchange.runOn_ofResult_bind, hcolumn]
  dsimp only
  rw [Exchange.runOn_dialect_bind]
  cases hobjects : (rows.mapM m.hydrate).mapError ModelError.database with
  | error e =>
    rw [hobjects] at hfetch
    exact Exchange.runOn_bind_of_error hfetch _
  | ok objects =>
    rw [hobjects] at hfetch
    rw [Exchange.runOn_bind_of_ok hfetch]
    match objects with
    | [] => rfl
    | [_] => rfl
    | _ :: _ :: _ => rfl

/-- **Looking for an object that may be missing** differs in nothing but its being missing. -/
structure ForgivesMissing (found : ModelResult α × Connection)
    (maybe : ModelResult (Option α) × Connection) : Prop where
  /-- The same statements are sent. -/
  connection_eq : maybe.2 = found.2
  /-- The same object is found. -/
  ok_iff : ∀ object, maybe.1 = .ok (some object) ↔ found.1 = .ok object
  /-- Nothing is found if the object is missing. -/
  none_iff : maybe.1 = .ok none ↔ found.1 = .error .notFound
  /-- All other failures are the same. -/
  error_iff : ∀ e, maybe.1 = .error e ↔ found.1 = .error e ∧ e ≠ .notFound

/-- What was found, or nothing if the object is missing. -/
def forgiven : ModelResult α → ModelResult (Option α)
  | .ok object => .ok (some object)
  | .error .notFound => .ok none
  | .error e => .error e

/-- A missing object is forgiven. -/
theorem forgivesMissing_get? (m : Model α) (key : Value) (c : Connection) :
    ForgivesMissing ((m.get key).runOn c) ((m.get? key).runOn c) := by
  have hmaybe : (m.get? key).runOn c
      = (forgiven ((m.get key).runOn c).1, ((m.get key).runOn c).2) := rfl
  rw [hmaybe]
  rcases (m.get key).runOn c with ⟨result, c'⟩
  cases result with
  | ok object => constructor <;> simp [forgiven]
  | error e => cases e <;> constructor <;> simp [forgiven]

/-- **Rows become objects up to the first failure.**  A stream of rows turns them into something
else one by one, up to the first that fails, and no later call reaches a row; a call depends on
nothing but the row that it reaches.  A query for objects gives those of all rows in order, or the
first failure.  The query for a key has a text, and its rows say whether there is no object, one or
several, unless a row fails.  Looking for an object that may be missing forgives that alone. -/
theorem objects_of_rows (m : Model α) (c : Connection) :
    (∀ (hydrate : Record → DbResult α) rows n, (RowStream.mk (.ofRows rows)).run hydrate n
      = ((upToFailure hydrate rows).map (.ofRow hydrate)).takeD n .atEnd) ∧
    (∀ (s : RowStream) (hydrate hydrate' : Record → DbResult α),
      (∀ row ∈ s.nextRow, hydrate row = hydrate' row) → s.next hydrate = s.next hydrate') ∧
    (∀ s sql rows, s.statement false = .ok sql → c.rowsOf sql = .ok rows →
      ∀ outcome, (m.fetch s).runOn c = (outcome.mapError .database, c.logged [sql]) ↔
        Collects m.hydrate rows outcome) ∧
    (∀ column key, m.primaryKey = .ok column →
      ∃ sql, (m.keyQuery c.dialect column key).statement false = .ok sql ∧
        ∀ rows, c.rowsOf sql = .ok rows → ∀ outcome,
          (m.get key).runOn c = (outcome, c.logged [sql]) ↔ m.Gets rows outcome) ∧
    ∀ key, ForgivesMissing ((m.get key).runOn c) ((m.get? key).runOn c) := by
  refine ⟨RowStream.run_ofRows, fun _ _ _ => RowStream.next_congr, ?_, ?_,
    fun key => m.forgivesMissing_get? key c⟩
  · intro s sql rows hs hrows outcome
    rw [runOn_fetch hs hrows, ← mapM_eq_iff_collects]
    constructor
    · intro h
      exact mapError_database_inj (congrArg Prod.fst h)
    · rintro rfl
      rfl
  · intro column key hcolumn
    obtain ⟨sql, hs⟩ := m.exists_statement_keyQuery c.dialect column key
    refine ⟨sql, hs, fun rows hrows outcome => ?_⟩
    rw [runOn_get hcolumn hs hrows, ← bind_only_eq_iff]
    constructor
    · exact congrArg Prod.fst
    · rintro rfl
      rfl

/-- A table whose objects are the numbers in its key column. -/
def numbers : Model Int64 :=
  ⟨"numbers", [⟨"id", .bigInteger {}, .ofList [.primaryKey true]⟩],
    fun row => (row.value "id").bind Value.toInt64⟩

/-- A row of the table. -/
def numberRow (v : Value) : Record := .ofPairs [("id", v)]

/-- The query for number 7. -/
def sevenQuery : String := "SELECT \"id\" FROM \"numbers\" WHERE \"id\" = 7 LIMIT 2"

/-- A connection on which the query has some rows. -/
def numberConnection (rows : List Record) : Connection :=
  (Connection.ofDialect .postgreSql).withResult sevenQuery rows

/-- The number is there for one row; there are several for two rows that do not fail.  If the second
one fails, that is the failure. -/
theorem objects_of_sevens :
    numbers.primaryKey = .ok "id" ∧
    (numbers.keyQuery .postgreSql "id" (.int 7)).statement false = .ok sevenQuery ∧
    ((numbers.get (.int 7)).runOn (numberConnection [numberRow (.int 7)])).1 = .ok 7 ∧
    ((numbers.get (.int 7)).runOn
        (numberConnection [numberRow (.int 7), numberRow (.int 7)])).1
      = .error .multipleObjects ∧
    ((numbers.get (.int 7)).runOn
        (numberConnection [numberRow (.int 7), numberRow .null])).1
      = .error (.database (.invalidArgument (.conversion "null" "i64"))) := by
  have hs : (numbers.keyQuery .postgreSql "id" (.int 7)).statement false = .ok sevenQuery := by
    decide +kernel
  have hgets : ∀ rows outcome, (numberConnection rows).rowsOf sevenQuery = .ok rows →
      numbers.Gets rows outcome →
        ((numbers.get (.int 7)).runOn (numberConnection rows)).1 = outcome := by
    intro rows outcome hrows houtcome
    obtain ⟨sql, hsql, hget⟩ :=
      (objects_of_rows numbers (numberConnection rows)).2.2.2.1 "id" (.int 7) rfl
    obtain rfl : sevenQuery = sql := Except.ok.inj (hs.symm.trans hsql)
    exact congrArg Prod.fst ((hget rows hrows outcome).2 houtcome)
  refine ⟨rfl, hs, hgets _ _ rfl (.one rfl), hgets _ _ rfl (.several ?_), hgets _ _ rfl ?_⟩
  · simp only [List.forall_mem_cons]
    exact ⟨rfl, rfl, by simp⟩
  · exact .failure [numberRow (.int 7)] (by simpa using (rfl : (numbers.hydrate _).isOk = true)) rfl

end Model
end SqlBuilder
