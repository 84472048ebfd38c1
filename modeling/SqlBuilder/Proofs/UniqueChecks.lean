import SqlBuilder.Proofs.Exchanges
import SqlBuilder.Proofs.ModelStatements

/-! # Checks before an object is stored

The values of an object are resolved without the connection (`Model.Refuses` lists the reasons to
refuse them).  Then the values of unique fields are looked for in other rows, one query for each
field.  What a query says depends on the script alone (`Model.verdict`), so the queries that are
sent are those up to the first one that objects (`Model.StopsAfter`), or all of them
(`Model.Passes`). -/

namespace SqlBuilder.Model

variable {α : Type} {m : Model α} {occasion : Occasion} {clock : Clock} {supplied : Supplied}

/-! ## Resolved values -/

/-- **Why the values of an object are refused**: one of them has no field, or a field does not
accept the value that it gets. -/
inductive Refuses (m : Model α) (occasion : Occasion) (clock : Clock) (supplied : Supplied) :
    ModelError → Prop where
  /-- A value is supplied for a column that is no field. -/
  | unknown {s : String × Value} (hs : s ∈ supplied) (hcolumn : s.1 ∉ m.columns) :
    Refuses m occasion clock supplied (.unknownColumn s.1)
  /-- A field does not accept its value. -/
  | invalid {f : Field} (hf : f ∈ m.fields) {fault : FieldFault}
    (hfault : f.validate (chosenValue occasion clock supplied f) = .error fault) :
    Refuses m occasion clock supplied (.validation f.column (.field fault))

/-- **The value of every field** in order, with its column. -/
def chosenValues (m : Model α) (occasion : Occasion) (clock : Clock) (supplied : Supplied) :
    List (String × Value) :=
  m.fields.map fun f => (f.column, chosenValue occasion clock supplied f)

/-- Each column has one value. -/
@[simp] theorem map_fst_chosenValues (m : Model α) (occasion : Occasion) (clock : Clock)
    (supplied : Supplied) : (m.chosenValues occasion clock supplied).map Prod.fst = m.columns := by
  simp [chosenValues, columns]

/-- The fields of a list accept their values, or the first that does not is the failure. -/
theorem mapM_resolveField (occasion : Occasion) (clock : Clock) (supplied : Supplied)
    (fields : List Field) :
    ((∀ f ∈ fields, f.validate (chosenValue occasion clock supplied f) = .ok ()) ∧
      fields.mapM (resolveField occasion clock supplied)
        = .ok (fields.map fun f => (f.column, chosenValue occasion clock supplied f))) ∨
    ∃ f ∈ fields, ∃ fault, f.validate (chosenValue occasion clock supplied f) = .error fault ∧
      fields.mapM (resolveField occasion clock supplied)
        = .error (.validation f.column (.field fault)) := by
  induction fields with
  | nil => exact Or.inl ⟨by simp, rfl⟩
  | cons f rest ih =>
    rw [List.mapM_cons]
    cases hvalid : f.validate (chosenValue occasion clock supplied f) with
    | error fault =>
      refine Or.inr ⟨f, List.mem_cons_self, fault, hvalid, ?_⟩
      simp only [resolveField, hvalid]
      rfl
    | ok =>
      have hresolve : resolveField occasion clock supplied f
          = .ok (f.column, chosenValue occasion clock supplied f) := by
        simp only [resolveField, hvalid]
      rw [hresolve]
      rcases ih with ⟨hall, hrest⟩ | ⟨g, hg, fault, hfault, hrest⟩
      · refine Or.inl ⟨List.forall_mem_cons.2 ⟨hvalid, hall⟩, ?_⟩
        rw [hrest]
        rfl
      · refine Or.inr ⟨g, List.mem_cons_of_mem f hg, fault, hfault, ?_⟩
        rw [hrest]
        rfl

/-- **Values that are refused have a failure that says why.** -/
theorem resolve_of_refuses {e : ModelError} (h : m.Refuses occasion clock supplied e) :
    ∃ e', m.Refuses occasion clock supplied e' ∧ m.resolve occasion clock supplied = .error e' := by
  cases hunknown : supplied.find? fun s => !m.columns.contains s.1 with
  | some s =>
    have hs : s.1 ∉ m.columns := by simpa using List.find?_some hunknown
    exact ⟨_, .unknown (List.mem_of_find?_eq_some hunknown) hs, resolve_of_find hunknown _ _⟩
  | none =>
    rw [List.find?_eq_none] at hunknown
    rw [resolve, List.find?_eq_none.2 hunknown]
    rcases mapM_resolveField occasion clock supplied m.fields with
      ⟨hall, -⟩ | ⟨f, hf, fault, hfault, hresolve⟩
    · -- All is in order, so that there is no reason to refuse the values.
      cases h with
      | unknown hs hcolumn => exact absurd hcolumn (by simpa using hunknown _ hs)
      | invalid hf hfault => cases (hall _ hf).symm.trans hfault
    · exact ⟨_, .invalid hf hfault, hresolve⟩

/-- **Values that are not refused are resolved**, each field to its value. -/
theorem resolve_of_not_refuses (h : ∀ e, ¬m.Refuses occasion clock supplied e) :
    m.resolve occasion clock supplied = .ok (m.chosenValues occasion clock supplied) := by
  have hknown : supplied.find? (fun s => !m.columns.contains s.1) = none := by
    refine List.find?_eq_none.2 fun s hs => ?_
    by_contra hcolumn
    exact h _ (.unknown hs (by simpa using hcolumn))
  rw [resolve, hknown]
  rcases mapM_resolveField occasion clock supplied m.fields with
    ⟨-, hresolve⟩ | ⟨f, hf, fault, hfault, -⟩
  · exact hresolve
  · exact absurd (.invalid hf hfault) (h _)

/-- Values that can be resolved are not refused. -/
theorem not_refuses_of_isOk (h : (m.resolve occasion clock supplied).isOk = true) (e : ModelError) :
    ¬m.Refuses occasion clock supplied e := by
  intro he
  obtain ⟨e', -, hresolve⟩ := resolve_of_refuses he
  rw [hresolve] at h
  cases h

end SqlBuilder.Model

namespace SqlBuilder

/-! ## Counts -/

/-- The number that a result of a counting query reports: that in the column `count` of the first
row, or zero if there is no row or the number is negative. -/
def countIn : List Record → DbResult Nat
  | [] => .ok 0
  | row :: _ => ((row.value "count").bind Value.toInt64).map fun n => n.toInt.toNat

/-- **The number that the script reports for a counting query.** -/
def Connection.countOf (c : Connection) (sql : String) : DbResult Nat := (c.rowsOf sql).bind countIn

/-- Statements do not change what later counts report. -/
@[simp] theorem Connection.countOf_logged (c : Connection) (sqls : List String) (sql : String) :
    (c.logged sqls).countOf sql = c.countOf sql := rfl

/-- A SELECT with a text is sent once. -/
theorem Select.runOn_open {s : Select} {sql : String} (h : s.statement false = .ok sql)
    (c : Connection) :
    (s.open).runOn c = ((c.rowsOf sql).map Reader.ofRows, c.logged [sql]) := by
  have hcommand : s.command = .ok (.ofText sql) := by
    rw [command, h]
    rfl
  rw [Select.open, hcommand, Exchange.runOn_ofResult_bind]
  exact Connection.runOn_openReader (.ofText sql) c

/-- **A counting query is sent once** and gives the number that the script reports. -/
theorem Model.runOn_count {s : Select} {sql : String} (h : s.statement false = .ok sql)
    (c : Connection) : (count s).runOn c = (c.countOf sql, c.logged [sql]) := by
  have hopen := Select.runOn_open h c
  rw [count, Connection.countOf]
  cases hrows : c.rowsOf sql with
  | error e =>
    rw [hrows] at hopen
    exact Exchange.runOn_bind_of_error hopen _
  | ok rows =>
    rw [hrows] at hopen
    rw [Exchange.runOn_bind_of_ok hopen, Except.bind]
    cases rows with
    | nil => rfl
    | cons row rest =>
      have hread : (Reader.ofRows (row :: rest)).read
          = (.ok true, ⟨some (.ofRows rest), some row, 1⟩) := rfl
      simp only [hread]
      rw [Exchange.runOn_ofResult_bind, countIn]
      cases (row.value "count").bind Value.toInt64 <;> rfl

end SqlBuilder

namespace SqlBuilder.Model

variable {α : Type} {m : Model α} {occasion : Occasion} {clock : Clock} {supplied : Supplied}

/-! ## Unique values -/

/-- **The values to look for in other rows**: those of unique fields that are not absent, in the
order of the fields.  Fields of the primary key are left out. -/
def uniqueValues (m : Model α) (occasion : Occasion) (clock : Clock) (supplied : Supplied) :
    List (String × Value) :=
  ((m.fields.filter isUniqueField).map fun f =>
    (f.column, chosenValue occasion clock supplied f)).filter fun v => !v.2.isNull

/-- No value that is found for a field is absent. -/
theorem isNull_of_uniqueValue? {values : List (String × Value)} {f : Field} {check : String × Value}
    (h : uniqueValue? values f = some check) : check.2.isNull = false := by
  rw [uniqueValue?] at h
  have hfound := List.find?_some h
  simp only [Bool.and_eq_true, Bool.not_eq_true'] at hfound
  exact hfound.2

/-- The value found for a field is that of its column, unless it is absent. -/
theorem find?_present {values : List (String × Value)} (hvalues : (values.map Prod.fst).Nodup)
    {v : String × Value} (hv : v ∈ values) :
    values.find? (fun w => w.1 == v.1 && !w.2.isNull) = if v.2.isNull then none else some v := by
  induction values with
  | nil => cases hv
  | cons w rest ih =>
    rw [List.map_cons, List.nodup_cons] at hvalues
    rw [List.find?_cons]
    rcases List.mem_cons.1 hv with rfl | hrest
    · -- No later value has the column.
      have hnone : rest.find? (fun w => w.1 == v.1 && !w.2.isNull) = none := by
        refine List.find?_eq_none.2 fun w hw => ?_
        have hne : w.1 ≠ v.1 := fun h => hvalues.1 (h ▸ List.mem_map_of_mem hw)
        simp [hne]
      cases v.2.isNull <;> simp [hnone]
    · have hne : w.1 ≠ v.1 := fun h => hvalues.1 (h ▸ List.mem_map_of_mem hrest)
      have hskip : (w.1 == v.1 && !w.2.isNull) = false := by simp [hne]
      rw [hskip]
      exact ih hvalues.2 hrest

/-- **The checks find the unique values** if the columns are distinct. -/
theorem filterMap_uniqueValue? (hcolumns : m.columns.Nodup) :
    (m.fields.filter isUniqueField).filterMap
        (uniqueValue? (m.chosenValues occasion clock supplied))
      = m.uniqueValues occasion clock supplied := by
  rw [uniqueValues, ← @List.filterMap_eq_filter _ fun v : String × Value => !v.2.isNull,
    List.filterMap_map]
  refine List.filterMap_congr fun f hf => ?_
  have hmem : (f.column, chosenValue occasion clock supplied f)
      ∈ m.chosenValues occasion clock supplied :=
    List.mem_map_of_mem (List.mem_filter.1 hf).1
  have hfind := find?_present (by rwa [map_fst_chosenValues]) hmem
  rw [uniqueValue?, hfind]
  cases hnull : (chosenValue occasion clock supplied f).isNull <;> simp [Option.guard, hnull]

/-! ## Checks on a connection -/

/-- **What the script says about a value**: it is taken if the query for it reports a row. -/
def verdict (m : Model α) (c : Connection) (own : Option OwnRow) (check : String × Value) :
    ModelResult Unit :=
  match c.countOf (m.duplicateText c.dialect own check) with
  | .error e => .error (.database e)
  | .ok rows => if 0 < rows then .error (.validation check.1 .taken) else .ok ()

/-- Statements do not change what is said about a value. -/
@[simp] theorem verdict_logged (m : Model α) (c : Connection) (sqls : List String)
    (own : Option OwnRow) (check : String × Value) :
    m.verdict (c.logged sqls) own check = m.verdict c own check := rfl

/-- All values pass their checks. -/
def Passes (m : Model α) (c : Connection) (own : Option OwnRow) (checks : List (String × Value)) :
    Prop :=
  ∀ check ∈ checks, m.verdict c own check = .ok ()

/-- **The checks stop after some values were asked for**: the last of these is the first one that
does not pass. -/
def StopsAfter (m : Model α) (c : Connection) (own : Option OwnRow)
    (checks asked : List (String × Value)) (e : ModelError) : Prop :=
  ∃ before check, asked = before ++ [check] ∧ asked <+: checks ∧ m.Passes c own before ∧
    m.verdict c own check = .error e

/-- What the checks of some values give, and the queries that they send. -/
def checkAll (m : Model α) (c : Connection) (own : Option OwnRow) :
    List (String × Value) → ModelResult Unit × List String
  | [] => (.ok (), [])
  | check :: rest =>
    match m.verdict c own check with
    | .error e => (.error e, [m.duplicateText c.dialect own check])
    | .ok _ =>
      ((m.checkAll c own rest).1, m.duplicateText c.dialect own check :: (m.checkAll c own rest).2)

section

variable {c : Connection} {own : Option OwnRow}

/-- Statements do not change what checks give. -/
@[simp] theorem checkAll_logged (m : Model α) (c : Connection) (sqls : List String)
    (own : Option OwnRow) (checks : List (String × Value)) :
    m.checkAll (c.logged sqls) own checks = m.checkAll c own checks := by
  induction checks with
  | nil => rfl
  | cons check rest ih => rw [checkAll, checkAll, ih, verdict_logged, Connection.dialect_logged]

/-- Checks that pass are asked for before the others. -/
theorem checkAll_append {before : List (String × Value)} (h : m.Passes c own before)
    (rest : List (String × Value)) :
    m.checkAll c own (before ++ rest)
      = ((m.checkAll c own rest).1,
        before.map (m.duplicateText c.dialect own) ++ (m.checkAll c own rest).2) := by
  induction before with
  | nil => rfl
  | cons check before ih =>
    obtain ⟨hcheck, hbefore⟩ := List.forall_mem_cons.1 h
    rw [List.cons_append, checkAll, hcheck, ih hbefore]
    rfl

/-- Checks that pass are all asked for. -/
theorem checkAll_of_passes {checks : List (String × Value)} (h : m.Passes c own checks) :
    m.checkAll c own checks = (.ok (), checks.map (m.duplicateText c.dialect own)) := by
  have happend := checkAll_append h []
  simpa [checkAll] using happend

/-- Checks that stop ask for nothing more. -/
theorem checkAll_of_stopsAfter {checks asked : List (String × Value)} {e : ModelError}
    (h : m.StopsAfter c own checks asked e) :
    m.checkAll c own checks = (.error e, asked.map (m.duplicateText c.dialect own)) := by
  obtain ⟨before, check, rfl, ⟨after, rfl⟩, hbefore, hcheck⟩ := h
  rw [List.append_assoc, List.singleton_append, checkAll_append hbefore, checkAll, hcheck,
    List.map_append]
  rfl

/-- **Checks pass or stop.** -/
theorem passes_or_stopsAfter (m : Model α) (c : Connection) (own : Option OwnRow)
    (checks : List (String × Value)) :
    m.Passes c own checks ∨ ∃ asked e, m.StopsAfter c own checks asked e := by
  induction checks with
  | nil => exact Or.inl (by simp [Passes])
  | cons check rest ih =>
    cases hcheck : m.verdict c own check with
    | error e =>
      exact Or.inr ⟨[check], e, [], check, rfl, ⟨rest, rfl⟩, by simp [Passes], hcheck⟩
    | ok =>
      rcases ih with hpasses | ⟨asked, e, before, last, rfl, ⟨after, hafter⟩, hbefore, hlast⟩
      · exact Or.inl (List.forall_mem_cons.2 ⟨hcheck, hpasses⟩)
      · exact Or.inr ⟨check :: (before ++ [last]), e, check :: before, last, rfl,
          ⟨after, congrArg (check :: ·) hafter⟩, List.forall_mem_cons.2 ⟨hcheck, hbefore⟩, hlast⟩

/-- A field without a value to look for sends nothing. -/
theorem runOn_checkUniqueField_of_none {values : List (String × Value)} {f : Field}
    (h : uniqueValue? values f = none) (c : Connection) :
    (m.checkUniqueField values own f).runOn c = (.ok (), c) := by
  rw [checkUniqueField, h]
  rfl

variable (hown : ∀ key ∈ own, key.2.isNull = false)
include hown

/-- **A field with a value to look for sends one query** and passes as the script says. -/
theorem runOn_checkUniqueField_of_some {values : List (String × Value)} {f : Field}
    {check : String × Value} (h : uniqueValue? values f = some check) (c : Connection) :
    (m.checkUniqueField values own f).runOn c
      = (m.verdict c own check, c.logged [m.duplicateText c.dialect own check]) := by
  have hcount := Exchange.runOn_mapError
    (runOn_count (m.statement_duplicateQuery (d := c.dialect) (isNull_of_uniqueValue? h) hown) c)
    ModelError.database
  rw [checkUniqueField, h]
  dsimp only
  rw [Exchange.runOn_dialect_bind, Exchange.runOn_bind, hcount, verdict]
  cases c.countOf (m.duplicateText c.dialect own check) with
  | error e => rfl
  | ok rows =>
    dsimp only [Except.mapError]
    by_cases htaken : 0 < rows
    · rw [if_pos htaken, if_pos htaken]
      rfl
    · rw [if_neg htaken, if_neg htaken]
      rfl

/-- **The fields of a list are checked in order.** -/
theorem runOn_forM_checkUniqueField (values : List (String × Value)) (fields : List Field)
    (c : Connection) :
    let outcome := m.checkAll c own (fields.filterMap (uniqueValue? values))
    (fields.forM (m.checkUniqueField values own)).runOn c = (outcome.1, c.logged outcome.2) := by
  induction fields generalizing c with
  | nil =>
    dsimp only [List.filterMap_nil, checkAll]
    rw [Connection.logged_nil]
    rfl
  | cons f rest ih =>
    have hcons : (f :: rest).forM (m.checkUniqueField values own)
        = m.checkUniqueField values own f >>= fun _ =>
          rest.forM (m.checkUniqueField values own) := rfl
    rw [hcons]
    cases hvalue : uniqueValue? values f with
    | none =>
      rw [Exchange.runOn_bind_of_ok (runOn_checkUniqueField_of_none hvalue c),
        List.filterMap_cons_none hvalue]
      exact ih c
    | some check =>
      have hfirst := runOn_checkUniqueField_of_some (m := m) hown hvalue c
      rw [List.filterMap_cons_some hvalue, checkAll]
      cases hcheck : m.verdict c own check with
      | error e =>
        rw [hcheck] at hfirst
        exact Exchange.runOn_bind_of_error hfirst _
      | ok =>
        rw [hcheck] at hfirst
        rw [Exchange.runOn_bind_of_ok hfirst, ih]
        simp

/-- **The unique values of an object are looked for in order** if the columns are distinct. -/
theorem runOn_checkUnique (hcolumns : m.columns.Nodup) (occasion : Occasion) (clock : Clock)
    (supplied : Supplied) (c : Connection) :
    let outcome := m.checkAll c own (m.uniqueValues occasion clock supplied)
    (m.checkUnique (m.chosenValues occasion clock supplied) own).runOn c
      = (outcome.1, c.logged outcome.2) := by
  rw [checkUnique, runOn_forM_checkUniqueField hown, filterMap_uniqueValue? hcolumns]

end

/-! ## Writing after the checks -/

/-- What inserting and updating have in common: values are resolved and looked for in other rows
before they are written. -/
def checkedWrite (m : Model α) (occasion : Occasion) (clock : Clock) (supplied : Supplied)
    (own : Option OwnRow) (write : List (String × Value) → ModelExchange UInt64) :
    ModelExchange UInt64 := do
  let values ← Exchange.ofResult (m.resolve occasion clock supplied)
  m.checkUnique values own
  write values

section

variable {own : Option OwnRow} (write : List (String × Value) → ModelExchange UInt64)
  (c : Connection)

/-- **Values that are refused send nothing.** -/
theorem runOn_checkedWrite_of_refuses {e : ModelError} (h : m.Refuses occasion clock supplied e) :
    ∃ e', m.Refuses occasion clock supplied e' ∧
      (m.checkedWrite occasion clock supplied own write).runOn c = (.error e', c) := by
  obtain ⟨e', he', hresolve⟩ := resolve_of_refuses h
  refine ⟨e', he', ?_⟩
  rw [checkedWrite, Exchange.runOn_ofResult_bind, hresolve]

/-- Values that are not refused are looked for. -/
theorem runOn_checkedWrite_of_not_refuses (h : ∀ e, ¬m.Refuses occasion clock supplied e) :
    (m.checkedWrite occasion clock supplied own write).runOn c
      = (m.checkUnique (m.chosenValues occasion clock supplied) own >>= fun _ =>
          write (m.chosenValues occasion clock supplied)).runOn c := by
  rw [checkedWrite, Exchange.runOn_ofResult_bind, resolve_of_not_refuses h]

variable (hcolumns : m.columns.Nodup) (hown : ∀ key ∈ own, key.2.isNull = false)
  (h : ∀ e, ¬m.Refuses occasion clock supplied e)
include hcolumns hown h

/-- **If the checks stop, nothing is written.** -/
theorem runOn_checkedWrite_of_stopsAfter {asked : List (String × Value)} {e : ModelError}
    (hstops : m.StopsAfter c own (m.uniqueValues occasion clock supplied) asked e) :
    (m.checkedWrite occasion clock supplied own write).runOn c
      = (.error e, c.logged (asked.map (m.duplicateText c.dialect own))) := by
  have hchecks := runOn_checkUnique hown hcolumns occasion clock supplied c
  rw [checkAll_of_stopsAfter hstops] at hchecks
  rw [runOn_checkedWrite_of_not_refuses write c h]
  exact Exchange.runOn_bind_of_error hchecks _

/-- **If the checks pass, the values of all fields are written.** -/
theorem runOn_checkedWrite_of_passes
    (hpasses : m.Passes c own (m.uniqueValues occasion clock supplied)) :
    (m.checkedWrite occasion clock supplied own write).runOn c
      = (write (m.chosenValues occasion clock supplied)).runOn (c.logged
        ((m.uniqueValues occasion clock supplied).map (m.duplicateText c.dialect own))) := by
  have hchecks := runOn_checkUnique hown hcolumns occasion clock supplied c
  rw [checkAll_of_passes hpasses] at hchecks
  rw [runOn_checkedWrite_of_not_refuses write c h]
  exact Exchange.runOn_bind_of_ok hchecks _

end

end SqlBuilder.Model
