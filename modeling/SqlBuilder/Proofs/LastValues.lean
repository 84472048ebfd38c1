import SqlBuilder.Proofs.AcceptanceAcrossDialects
import SqlBuilder.Proofs.EntriesOrder
import SqlBuilder.Record

/-! # Columns of records and of UPDATEs

A record is filled by pushing columns, an UPDATE by assigning them.  Both keep each column once,
where it first came, with the value that it got last (`Entries.KeepsLast`).  A column of a record is
found by its exact name before any name that differs in case (`Record.Finds`), and reading one fails
for want of a column only if none is found. -/

namespace SqlBuilder

/-! ## Entries that pairs leave -/

namespace Entries

variable {κ α : Type} [DecidableEq κ]

/-- **Entries that keep the last value of every key** of some pairs. -/
structure KeepsLast (entries : Entries κ α) (pairs : List (κ × α)) : Prop where
  /-- No key stands twice. -/
  nodup : entries.keys.Nodup
  /-- The keys stand in the order in which they first came. -/
  keys_eq : entries.keys = (pairs.map Prod.fst).eraseDups
  /-- Each key stands with the value that it got last. -/
  mem_iff : ∀ key value, (key, value) ∈ entries ↔ lastValue key pairs = some value

/-- Among distinct keys, an entry is there iff its key has the value. -/
theorem mem_iff_find {entries : Entries κ α} (h : entries.keys.Nodup) (key : κ) (value : α) :
    (key, value) ∈ entries ↔ entries.find key = some value :=
  ⟨fun hmem => find_of_mem h hmem, mem_of_find⟩

/-- **Pairs that are put in one after the other** are kept so. -/
theorem keepsLast_ofPairs (pairs : List (κ × α)) : (ofPairs pairs).KeepsLast pairs where
  nodup := nodup_ofPairs pairs
  keys_eq := keys_ofPairs pairs
  mem_iff key value := by rw [mem_iff_find (nodup_ofPairs pairs), find_ofPairs]

/-- A key that is not there has no value. -/
theorem find_eq_none_iff (key : κ) (entries : Entries κ α) :
    entries.find key = none ↔ key ∉ entries.keys := by
  induction entries with
  | nil => simp [keys]
  | cons pair rest ih =>
    by_cases h : pair.1 = key
    · simp [find, keys, h]
    · rw [find, if_neg h, ih]
      simp [keys, Ne.symm h]

end Entries

/-! ## Records -/

namespace Record

/-- The record after some columns were pushed. -/
def pushAll (r : Record) (pairs : List (String × Value)) : Record :=
  pairs.foldl (fun r pair => r.push pair.1 pair.2) r

/-- Pushing columns into an empty record is putting them in one after the other. -/
theorem pushAll_empty (pairs : List (String × Value)) : empty.pushAll pairs = ofPairs pairs := by
  induction pairs using List.reverseRecOn with
  | nil => rfl
  | append_singleton pairs pair ih =>
    have hlast : empty.pushAll (pairs ++ [pair]) = (empty.pushAll pairs).push pair.1 pair.2 := by
      rw [pushAll, List.foldl_append]
      rfl
    rw [hlast, ih]
    exact congrArg Record.mk (Entries.ofPairs_concat pairs pair).symm

/-- **What is found under a name** in a record. -/
inductive Finds (r : Record) (column : String) : Option Value → Prop
  /-- The value of the column of exactly that name. -/
  | exactly {v : Value} (h : (column, v) ∈ r.columns) : Finds r column (some v)
  /-- Without one, that of the first column whose name differs in case alone. -/
  | ignoringCase {before after : Entries String Value} {name : String} {v : Value}
    (hexact : column ∉ r.names) (hcolumns : r.columns = before ++ (name, v) :: after)
    (hbefore : ∀ c ∈ before, Text.equalIgnoringCase c.1 column = false)
    (hname : Text.equalIgnoringCase name column = true) : Finds r column (some v)
  /-- Without one of these, nothing. -/
  | nothing (h : ∀ name ∈ r.names, Text.equalIgnoringCase name column = false) :
    Finds r column none

/-- A column that differs in case is the first one that does. -/
theorem getIgnoringCase_eq_some_iff (r : Record) (column : String) (v : Value) :
    r.getIgnoringCase column = some v ↔ ∃ before name after,
      r.columns = before ++ (name, v) :: after ∧
      (∀ c ∈ before, Text.equalIgnoringCase c.1 column = false) ∧
      Text.equalIgnoringCase name column = true := by
  rw [getIgnoringCase, Option.map_eq_some_iff]
  constructor
  · rintro ⟨⟨name, v⟩, hfind, rfl⟩
    obtain ⟨hname, before, after, hcolumns, hbefore⟩ := List.find?_eq_some_iff_append.1 hfind
    exact ⟨before, name, after, hcolumns, by simpa using hbefore, hname⟩
  · rintro ⟨before, name, after, hcolumns, hbefore, hname⟩
    refine ⟨(name, v), List.find?_eq_some_iff_append.2 ⟨hname, before, after, hcolumns, ?_⟩, rfl⟩
    simpa using hbefore

/-- No column differs in case alone if none is found so. -/
theorem getIgnoringCase_eq_none_iff (r : Record) (column : String) :
    r.getIgnoringCase column = none ↔
      ∀ name ∈ r.names, Text.equalIgnoringCase name column = false := by
  simp [getIgnoringCase, names, Entries.keys]

/-- **A column is found by its exact name, or else without regard to case**, if names are
distinct. -/
theorem get?_eq_iff {r : Record} (hnames : r.names.Nodup) (column : String)
    (found : Option Value) : r.get? column = found ↔ r.Finds column found := by
  have hexact : ∀ v, (column, v) ∈ r.columns ↔ r.columns.find column = some v :=
    Entries.mem_iff_find hnames column
  have habsent : r.columns.find column = none ↔ column ∉ r.names :=
    Entries.find_eq_none_iff column r.columns
  rw [get?]
  constructor
  · rintro rfl
    cases hfind : r.columns.find column with
    | some v => exact .exactly ((hexact v).2 hfind)
    | none =>
      dsimp only
      cases hother : r.getIgnoringCase column with
      | some v =>
        obtain ⟨before, name, after, hcolumns, hbefore, hname⟩ :=
          (r.getIgnoringCase_eq_some_iff column v).1 hother
        exact .ignoringCase (habsent.1 hfind) hcolumns hbefore hname
      | none => exact .nothing ((r.getIgnoringCase_eq_none_iff column).1 hother)
  · intro hfinds
    cases hfinds with
    | exactly h => rw [(hexact _).1 h]
    | ignoringCase hnone hcolumns hbefore hname =>
      rw [habsent.2 hnone]
      exact (r.getIgnoringCase_eq_some_iff column _).2 ⟨_, _, _, hcolumns, hbefore, hname⟩
    | nothing h =>
      have hnone : column ∉ r.names := by
        intro hmem
        have hself := h column hmem
        rw [Text.equalIgnoringCase_self] at hself
        cases hself
      rw [habsent.2 hnone]
      exact (r.getIgnoringCase_eq_none_iff column).2 h

end Record

/-! ## Reading a column as a type -/

/-- **A result that is there, or an argument is refused.** -/
def RefusesArguments {α : Type} (result : DbResult α) : Prop :=
  ∀ e, result = .error e → ∃ fault, e = .invalidArgument fault

namespace RefusesArguments

variable {α β : Type} {result : DbResult α}

/-- A result that is there. -/
theorem of_ok (a : α) : RefusesArguments (.ok a : DbResult α) := by
  rintro e ⟨⟩

/-- A value of a kind that cannot be read is refused. -/
theorem of_mismatch (v : Value) (expected : String) :
    RefusesArguments (v.mismatch expected : DbResult α) := by
  rintro e ⟨⟩
  exact ⟨_, rfl⟩

/-- What follows a result may refuse arguments too. -/
theorem bind {f : α → DbResult β} (h : RefusesArguments result)
    (hf : ∀ a, RefusesArguments (f a)) : RefusesArguments (result >>= f) := by
  cases result with
  | ok a => exact hf a
  | error e =>
    rintro _ ⟨⟩
    exact h e rfl

/-- What is made of a result refuses nothing more. -/
theorem map (h : RefusesArguments result) (f : α → β) : RefusesArguments (result.map f) := by
  cases result with
  | ok a => exact of_ok (f a)
  | error e =>
    rintro _ ⟨⟩
    exact h e rfl

/-- No result lacks a column. -/
theorem ne_noColumn (h : RefusesArguments result) (name : String) :
    result ≠ .error (.noColumn name) := by
  intro hcolumn
  obtain ⟨fault, hfault⟩ := h _ hcolumn
  cases hfault

end RefusesArguments

namespace Value

open RefusesArguments

variable (v : Value)

/-- What is no integer of 64 bits is refused. -/
theorem refusesArguments_toInt64 : RefusesArguments v.toInt64 := by
  cases v with
  | int | bool => exact of_ok _
  | text s =>
    rw [toInt64]
    split
    · exact of_ok _
    · exact of_mismatch _ _
  | _ => exact of_mismatch _ _

/-- What is no integer of 32 bits is refused. -/
theorem refusesArguments_toInt32 : RefusesArguments v.toInt32 := by
  refine v.refusesArguments_toInt64.bind fun n => ?_
  split
  · exact of_ok _
  · exact of_mismatch v _

/-- What is no fractional number is refused. -/
theorem refusesArguments_toFloat : RefusesArguments v.toFloat := by
  cases v with
  | float | int => exact of_ok _
  | text s =>
    rw [toFloat]
    split
    · exact of_ok _
    · exact of_mismatch _ _
  | _ => exact of_mismatch _ _

/-- What is no truth value is refused. -/
theorem refusesArguments_toBool : RefusesArguments v.toBool := by
  cases v with
  | bool | int => exact of_ok _
  | text s =>
    rw [toBool]
    split
    · exact of_ok true
    · split
      · exact of_ok false
      · exact of_mismatch _ _
  | _ => exact of_mismatch _ _

/-- What is no text is refused. -/
theorem refusesArguments_toText : RefusesArguments v.toText := by
  cases v with
  | null | blob => exact of_mismatch _ _
  | _ => exact of_ok _

/-- What are no bytes is refused. -/
theorem refusesArguments_toBytes : RefusesArguments v.toBytes := by
  cases v with
  | blob | text => exact of_ok _
  | _ => exact of_mismatch _ _

/-- What is no timestamp is refused. -/
theorem refusesArguments_toTimestamp : RefusesArguments v.toTimestamp := by
  cases v with
  | timestamp => exact of_ok _
  | text s =>
    rw [toTimestamp]
    split
    · exact of_ok _
    · exact of_mismatch _ _
  | _ => exact of_mismatch _ _

/-- **A value that cannot be read as a type is refused as an argument**, whatever the type. -/
theorem refusesArguments_convert (type : ColumnType) : RefusesArguments (v.convert type) := by
  rw [convert]
  split
  · exact of_ok _
  · cases type.scalar with
    | value => exact of_ok v
    | int64 => exact v.refusesArguments_toInt64.map _
    | int32 => exact v.refusesArguments_toInt32.map _
    | float => exact v.refusesArguments_toFloat.map _
    | bool => exact v.refusesArguments_toBool.map _
    | text => exact v.refusesArguments_toText.map _
    | bytes => exact v.refusesArguments_toBytes.map _
    | timestamp => exact v.refusesArguments_toTimestamp.map _

end Value

namespace Record

/-- **Reading a column fails for want of one iff none is found**, and the failure names it. -/
theorem getAs_eq_noColumn_iff (r : Record) (column : String) (type : ColumnType) (name : String) :
    r.getAs column type = .error (.noColumn name) ↔ r.get? column = none ∧ name = column := by
  rw [getAs, value]
  cases r.get? column with
  | none =>
    constructor
    · rintro ⟨⟩
      exact ⟨rfl, rfl⟩
    · rintro ⟨-, rfl⟩
      rfl
  | some v =>
    constructor
    · intro hcolumn
      exact absurd hcolumn ((v.refusesArguments_convert type).ne_noColumn name)
    · rintro ⟨⟨⟩, -⟩

end Record

/-! ## Assignments of UPDATEs -/

namespace UpdateStep

/-- The column that a call assigns, with the value as the dialect writes it. -/
def assigned? (d : Dialect) : UpdateStep → Option (String × String)
  | .set column v => some (column, d.literal v)
  | .setRaw column sql => some (column, sql)
  | _ => none

/-- Whether a call starts over. -/
def isReset : UpdateStep → Bool
  | .reset => true
  | _ => false

/-- **The columns that were assigned since the last reset**, call by call. -/
def assignedSinceReset (d : Dialect) (steps : List UpdateStep) : List (String × String) :=
  (steps.rtakeWhile fun step => !step.isReset).filterMap (assigned? d)

/-- Nothing is assigned after a reset. -/
theorem assignedSinceReset_concat_of_isReset (d : Dialect) (steps : List UpdateStep)
    {step : UpdateStep} (h : step.isReset = true) :
    assignedSinceReset d (steps ++ [step]) = [] := by
  rw [assignedSinceReset, List.rtakeWhile_concat, if_neg (by simp [h])]
  rfl

/-- What the last call assigns comes last. -/
theorem assignedSinceReset_concat (d : Dialect) (steps : List UpdateStep) {step : UpdateStep}
    (h : step.isReset = false) :
    assignedSinceReset d (steps ++ [step])
      = assignedSinceReset d steps ++ (assigned? d step).toList := by
  rw [assignedSinceReset, List.rtakeWhile_concat, if_pos (by simp [h]), List.filterMap_append]
  cases hassigned : assigned? d step <;> simp [hassigned, assignedSinceReset]

end UpdateStep

namespace Update

/-- **One more call** puts in what it assigns, unless it starts over. -/
theorem assignments_apply (s : Update) (step : UpdateStep) :
    (s.apply step).data.assignments =
      if step.isReset then [] else
        (step.assigned? s.dialect).toList.foldl
          (fun entries pair => Entries.put pair.1 pair.2 entries) s.data.assignments := by
  cases step with
  | setRaw column sql => simp [apply, setRaw, set, UpdateStep.isReset, UpdateStep.assigned?]
  | _ => rfl

/-- **The assignments after some calls** are those since the last reset, put in one after the
other. -/
theorem assignments_run (d : Dialect) (steps : List UpdateStep) :
    ((new d).run steps).data.assignments
      = Entries.ofPairs (UpdateStep.assignedSinceReset d steps) := by
  induction steps using List.reverseRecOn with
  | nil => rfl
  | append_singleton steps step ih =>
    have hlast : (new d).run (steps ++ [step]) = ((new d).run steps).apply step := by
      rw [run, List.foldl_append]
      rfl
    have hdialect : ((new d).run steps).dialect = d := dialect_run (new d) steps
    rw [hlast, assignments_apply, hdialect, ih]
    cases hreset : step.isReset with
    | true => rw [UpdateStep.assignedSinceReset_concat_of_isReset d steps hreset]; rfl
    | false =>
      rw [UpdateStep.assignedSinceReset_concat d steps hreset, if_neg (by simp), Entries.ofPairs,
        Entries.ofPairs, List.foldl_append]

end Update

/-- **Columns are kept once, in order, with their last values.**  A record that columns are pushed
into keeps the last value of each, whether they come one by one, as pairs or from a JSON object; a
column is found by its exact name or else without regard to case, and reading it as a type fails for
want of a column iff none is found.  An UPDATE keeps the last value of each column that was assigned
since the last reset, in any sequence of calls. -/
theorem columns_keep_last_values :
    (∀ pairs : List (String × Value),
      (Record.empty.pushAll pairs).columns.KeepsLast pairs ∧
      Record.ofPairs pairs = Record.empty.pushAll pairs ∧
      (∀ column found, (Record.empty.pushAll pairs).get? column = found ↔
        (Record.empty.pushAll pairs).Finds column found) ∧
      ∀ column type name, (Record.empty.pushAll pairs).getAs column type = .error (.noColumn name) ↔
        (Record.empty.pushAll pairs).get? column = none ∧ name = column) ∧
    (∀ members, Record.ofJson members
      = Record.empty.pushAll (members.map fun m => (m.1, Value.ofJson m.2))) ∧
    ∀ d steps, ((Update.new d).run steps).data.assignments.KeepsLast
      (UpdateStep.assignedSinceReset d steps) := by
  refine ⟨fun pairs => ?_, fun members => ?_, fun d steps => ?_⟩
  · have hkeeps : (Record.ofPairs pairs).columns.KeepsLast pairs := Entries.keepsLast_ofPairs pairs
    rw [Record.pushAll_empty]
    refine ⟨hkeeps, rfl, Record.get?_eq_iff hkeeps.nodup, ?_⟩
    exact (Record.ofPairs pairs).getAs_eq_noColumn_iff
  · rw [Record.pushAll_empty, Record.ofJson]
  · rw [Update.assignments_run]
    exact Entries.keepsLast_ofPairs _

/-- Two names that differ in case alone are two columns. -/
example : (Record.empty.pushAll [("Id", .int 1), ("id", .int 2), ("Id", .int 3)]).columns
    = [("Id", .int 3), ("id", .int 2)] := by
  rfl

end SqlBuilder
