import SqlBuilder.Proofs.CollectedResults
import SqlBuilder.Proofs.OwnRow
import SqlBuilder.Proofs.StoredObjects

/-! # Resolving the values of an object

Values are resolved in a fixed order.  A supplied column without a field is refused first; then the
fields choose their values one after the other, and the first field that does not accept its value
is the failure (`Model.ResolvesTo`).  Looking at an object, inserting it and updating it resolve the
same values unless a field sets its value automatically, so they refuse the same objects for the
same reason (`Model.values_are_resolved_in_order`). -/

namespace SqlBuilder

/-! ## Chosen values -/

/-- Whether a field sets its value automatically on some occasion. -/
def Field.isAutomatic (f : Field) : Bool :=
  match f.kind with
  | .dateTime autoNow autoNowAdd => autoNow || autoNowAdd
  | _ => false

/-- Other fields never set their value. -/
theorem Field.autoValue_of_not_isAutomatic {f : Field} (h : f.isAutomatic = false)
    (occasion : Occasion) (now : Timestamp) : f.autoValue occasion now = none := by
  obtain ⟨column, kind, options⟩ := f
  cases kind with
  | dateTime autoNow autoNowAdd =>
    obtain ⟨rfl, rfl⟩ : autoNow = false ∧ autoNowAdd = false := Bool.or_eq_false_iff.1 h
    cases occasion <;> rfl
  | _ => rfl

namespace Model

variable {α : Type} {m : Model α} {occasion : Occasion} {clock : Clock} {supplied : Supplied}

/-- **Where the value of a field comes from**: the first of four sources that has one. -/
inductive Chooses (occasion : Occasion) (clock : Clock) (supplied : Supplied) (f : Field) :
    Value → Prop
  /-- The field sets it automatically on the occasion. -/
  | automatic {v : Value} (hauto : f.autoValue occasion (clock f.column) = some v) :
    Chooses occasion clock supplied f v
  /-- Else it is the first one that is supplied for the column. -/
  | supplied {before after : Supplied} {v : Value}
    (hauto : f.autoValue occasion (clock f.column) = none)
    (hsupplied : supplied = before ++ (f.column, v) :: after)
    (hbefore : ∀ s ∈ before, s.1 ≠ f.column) : Chooses occasion clock supplied f v
  /-- Else it is the default. -/
  | default {v : Value} (hauto : f.autoValue occasion (clock f.column) = none)
    (hsupplied : ∀ s ∈ supplied, s.1 ≠ f.column) (hdefault : f.options.default = some v) :
    Chooses occasion clock supplied f v
  /-- Else there is none. -/
  | absent (hauto : f.autoValue occasion (clock f.column) = none)
    (hsupplied : ∀ s ∈ supplied, s.1 ≠ f.column) (hdefault : f.options.default = none) :
    Chooses occasion clock supplied f .null

/-- The value of a key is the first one that stands with it. -/
theorem find_of_first {before after : Supplied} {column : String} {v : Value}
    (hbefore : ∀ s ∈ before, s.1 ≠ column) :
    Entries.find column (before ++ (column, v) :: after) = some v := by
  induction before with
  | nil => simp [Entries.find]
  | cons s rest ih =>
    obtain ⟨hs, hrest⟩ := List.forall_mem_cons.1 hbefore
    rw [List.cons_append, Entries.find, if_neg hs, ih hrest]

/-- A key that does not occur has no value. -/
theorem find_of_forall_ne {column : String} (h : ∀ s ∈ supplied, s.1 ≠ column) :
    Entries.find column supplied = none := by
  induction supplied with
  | nil => rfl
  | cons s rest ih =>
    obtain ⟨hs, hrest⟩ := List.forall_mem_cons.1 h
    rw [Entries.find, if_neg hs, ih hrest]

/-- A column occurs with a value for the first time, or it does not occur. -/
theorem exists_first_or_forall_ne (supplied : Supplied) (column : String) :
    (∃ before v after, supplied = before ++ (column, v) :: after ∧
      ∀ s ∈ before, s.1 ≠ column) ∨ ∀ s ∈ supplied, s.1 ≠ column := by
  induction supplied with
  | nil => exact Or.inr (by simp)
  | cons s rest ih =>
    by_cases hs : s.1 = column
    · subst hs
      exact Or.inl ⟨[], s.2, rest, rfl, by simp⟩
    · rcases ih with ⟨before, v, after, rfl, hbefore⟩ | hnone
      · exact Or.inl ⟨s :: before, v, after, rfl, List.forall_mem_cons.2 ⟨hs, hbefore⟩⟩
      · exact Or.inr (List.forall_mem_cons.2 ⟨hs, hnone⟩)

/-- **The chosen value comes from the first source that has one.** -/
theorem chooses_iff {f : Field} {v : Value} :
    Chooses occasion clock supplied f v ↔ v = chosenValue occasion clock supplied f := by
  constructor
  · intro h
    cases h with
    | automatic hauto => exact (chosenValue_of_autoValue hauto supplied).symm
    | supplied hauto hsupplied hbefore =>
      rw [chosenValue, hauto, hsupplied, find_of_first hbefore]
      rfl
    | default hauto hsupplied hdefault =>
      rw [chosenValue, hauto, find_of_forall_ne hsupplied, hdefault]
      rfl
    | absent hauto hsupplied hdefault =>
      rw [chosenValue, hauto, find_of_forall_ne hsupplied, hdefault]
      rfl
  · rintro rfl
    cases hauto : f.autoValue occasion (clock f.column) with
    | some v =>
      rw [chosenValue_of_autoValue hauto]
      exact .automatic hauto
    | none =>
      rcases exists_first_or_forall_ne supplied f.column with
        ⟨before, v, after, rfl, hbefore⟩ | hnone
      · rw [chosenValue, hauto, find_of_first hbefore]
        exact .supplied hauto rfl hbefore
      · rw [chosenValue, hauto, find_of_forall_ne hnone]
        cases hdefault : f.options.default with
        | some v => exact .default hauto hnone hdefault
        | none => exact .absent hauto hnone hdefault

/-! ## Outcomes -/

/-- **A field that accepts its value**, with the pair that is stored for it. -/
structure Accepts (occasion : Occasion) (clock : Clock) (supplied : Supplied) (f : Field)
    (cell : String × Value) : Prop where
  /-- The pair has the column of the field. -/
  column_eq : cell.1 = f.column
  /-- It has the value that the field chooses. -/
  chooses : Chooses occasion clock supplied f cell.2
  /-- The field accepts the value. -/
  valid : f.validate cell.2 = .ok ()

/-- **What resolving the values of an object gives.** -/
inductive ResolvesTo (m : Model α) (occasion : Occasion) (clock : Clock) (supplied : Supplied) :
    ModelResult (List (String × Value)) → Prop
  /-- The first supplied column without a field is refused, whatever the values. -/
  | unknown {before after : Supplied} {s : String × Value}
    (hsupplied : supplied = before ++ s :: after) (hbefore : ∀ b ∈ before, b.1 ∈ m.columns)
    (hs : s.1 ∉ m.columns) : ResolvesTo m occasion clock supplied (.error (.unknownColumn s.1))
  /-- Else the first field that does not accept its value refuses it. -/
  | invalid {before after : List Field} {f : Field} {v : Value} {fault : FieldFault}
    (hknown : ∀ s ∈ supplied, s.1 ∈ m.columns) (hfields : m.fields = before ++ f :: after)
    (hbefore : ∀ g ∈ before, ∃ cell, Accepts occasion clock supplied g cell)
    (hchooses : Chooses occasion clock supplied f v) (hfault : f.validate v = .error fault) :
    ResolvesTo m occasion clock supplied (.error (.validation f.column (.field fault)))
  /-- Else there is one pair for each field, in the order of the fields. -/
  | resolved {values : List (String × Value)} (hknown : ∀ s ∈ supplied, s.1 ∈ m.columns)
    (hvalues : List.Forall₂ (Accepts occasion clock supplied) m.fields values) :
    ResolvesTo m occasion clock supplied (.ok values)

/-- A field is resolved if it accepts its value. -/
theorem resolveField_eq_ok_iff {f : Field} {cell : String × Value} :
    resolveField occasion clock supplied f = .ok cell ↔ Accepts occasion clock supplied f cell := by
  obtain ⟨column, v⟩ := cell
  rw [resolveField]
  cases hvalid : f.validate (chosenValue occasion clock supplied f) with
  | ok =>
    constructor
    · rintro ⟨⟩
      exact ⟨rfl, chooses_iff.2 rfl, hvalid⟩
    · rintro ⟨rfl, hchooses, -⟩
      obtain rfl := chooses_iff.1 hchooses
      rfl
  | error fault =>
    constructor
    · rintro ⟨⟩
    · rintro ⟨-, hchooses, haccepted⟩
      obtain rfl := chooses_iff.1 hchooses
      rw [hvalid] at haccepted
      cases haccepted

/-- A field is refused if it does not accept its value. -/
theorem resolveField_eq_error_iff {f : Field} {e : ModelError} :
    resolveField occasion clock supplied f = .error e ↔ ∃ v fault,
      Chooses occasion clock supplied f v ∧ f.validate v = .error fault ∧
        e = .validation f.column (.field fault) := by
  rw [resolveField]
  constructor
  · intro h
    cases hvalid : f.validate (chosenValue occasion clock supplied f) with
    | ok =>
      rw [hvalid] at h
      cases h
    | error fault =>
      rw [hvalid] at h
      exact ⟨_, fault, chooses_iff.2 rfl, hvalid, (Except.error.inj h).symm⟩
  · rintro ⟨v, fault, hchooses, hfault, rfl⟩
    obtain rfl := chooses_iff.1 hchooses
    simp only [hfault]

/-- A field that is resolved accepts a value. -/
theorem isOk_resolveField_iff {f : Field} :
    (resolveField occasion clock supplied f).isOk = true ↔
      ∃ cell, Accepts occasion clock supplied f cell := by
  simp only [← resolveField_eq_ok_iff]
  cases resolveField occasion clock supplied f <;> simp [Except.isOk, Except.toBool]

/-- **Values are resolved in the order that is laid down**, and in no other. -/
theorem resolve_eq_iff {outcome : ModelResult (List (String × Value))} :
    m.resolve occasion clock supplied = outcome ↔ m.ResolvesTo occasion clock supplied outcome := by
  have hsteps {outcome} : m.fields.mapM (resolveField occasion clock supplied) = outcome ↔
      Collects (resolveField occasion clock supplied) m.fields outcome := mapM_eq_iff_collects
  constructor
  · rintro rfl
    cases hunknown : supplied.find? fun s => !m.columns.contains s.1 with
    | some s =>
      rw [resolve_of_find hunknown]
      obtain ⟨hs, before, after, hsupplied, hbefore⟩ := List.find?_eq_some_iff_append.1 hunknown
      exact .unknown hsupplied (by simpa using hbefore) (by simpa using hs)
    | none =>
      have hknown : ∀ s ∈ supplied, s.1 ∈ m.columns := by
        simpa using List.find?_eq_none.1 hunknown
      rw [resolve, hunknown]
      generalize houtcome : m.fields.mapM (resolveField occasion clock supplied) = outcome
      have hcollects := hsteps.1 houtcome
      generalize hfields : m.fields = fields at hcollects
      cases hcollects with
      | all h =>
        refine .resolved hknown (hfields ▸ ?_)
        exact h.imp fun f cell => resolveField_eq_ok_iff.1
      | failure before hbefore hfailure =>
        obtain ⟨v, fault, hchooses, hfault, rfl⟩ := resolveField_eq_error_iff.1 hfailure
        refine .invalid hknown hfields (fun g hg => ?_) hchooses hfault
        exact isOk_resolveField_iff.1 (hbefore g hg)
  · intro h
    have hfind : (∀ s ∈ supplied, s.1 ∈ m.columns) →
        supplied.find? (fun s => !m.columns.contains s.1) = none := by
      intro hknown
      simpa using hknown
    cases h with
    | unknown hsupplied hbefore hs =>
      refine resolve_of_find (List.find?_eq_some_iff_append.2 ⟨?_, _, _, hsupplied, ?_⟩) _ _
      · simpa using hs
      · simpa using hbefore
    | invalid hknown hfields hbefore hchooses hfault =>
      rw [resolve, hfind hknown, hfields]
      refine Collects.mapM_of_failure (fun g hg => isOk_resolveField_iff.2 (hbefore g hg)) ?_ _
      exact resolveField_eq_error_iff.2 ⟨_, _, hchooses, hfault, rfl⟩
    | resolved hknown hvalues =>
      rw [resolve, hfind hknown]
      exact Collects.mapM_of_forall₂ (hvalues.imp fun f cell => resolveField_eq_ok_iff.2)

end Model

/-! ## Faults of fields -/

/-- **A failure of the fields** when the values of an object are resolved. -/
inductive ModelError.IsFieldFault : ModelError → Prop
  /-- A value is supplied for a column that is no field. -/
  | unknown (column : String) : IsFieldFault (.unknownColumn column)
  /-- A field does not accept its value. -/
  | refused (column : String) (fault : FieldFault) :
    IsFieldFault (.validation column (.field fault))

/-- **An exchange that never fails because of the fields.** -/
def Exchange.SparesFields {β : Type} (x : ModelExchange β) : Prop :=
  ∀ c e, (x.runOn c).1 = .error e → ¬e.IsFieldFault

namespace Exchange.SparesFields

variable {β γ : Type}

/-- A value that is there at once. -/
theorem of_pure (b : β) : SparesFields (pure b : ModelExchange β) := by
  rintro c e ⟨⟩

/-- A value that is taken is no fault of the field. -/
theorem of_taken (column : String) :
    SparesFields (throw (.validation column .taken) : ModelExchange β) := by
  rintro c _ ⟨⟩ ⟨⟩

/-- Failures of the database are none of the fields. -/
theorem of_database (x : DbExchange β) : SparesFields (x.mapError ModelError.database) := by
  intro c e he
  rcases hrun : x.runOn c with ⟨result, c'⟩
  rw [runOn_mapError hrun] at he
  cases result with
  | ok b => cases he
  | error cause =>
    obtain rfl := Except.error.inj he
    rintro ⟨⟩

/-- The dialect is read without failure. -/
theorem dialect_bind {f : Dialect → ModelExchange β} (hf : ∀ d, SparesFields (f d)) :
    SparesFields (Exchange.dialect >>= f) := by
  intro c e he
  rw [runOn_dialect_bind] at he
  exact hf c.dialect c e he

/-- One exchange after another. -/
theorem bind {x : ModelExchange β} {f : β → ModelExchange γ} (hx : SparesFields x)
    (hf : ∀ b, SparesFields (f b)) : SparesFields (x >>= f) := by
  intro c e he
  rcases hrun : x.runOn c with ⟨result, c'⟩
  cases result with
  | error e' =>
    rw [runOn_bind_of_error hrun] at he
    obtain rfl := Except.error.inj he
    exact hx c e' (congrArg Prod.fst hrun)
  | ok b =>
    rw [runOn_bind_of_ok hrun] at he
    exact hf b c' e he

/-- The same exchange for each element of a list. -/
theorem forM {f : β → ModelExchange Unit} (hf : ∀ b, SparesFields (f b)) (l : List β) :
    SparesFields (l.forM f) := by
  induction l with
  | nil => exact of_pure ()
  | cons b rest ih => exact (hf b).bind fun _ => ih

end Exchange.SparesFields

namespace Model

variable {α : Type} {m : Model α} {occasion : Occasion} {clock : Clock} {supplied : Supplied}

/-- Values are refused because of the fields. -/
theorem ResolvesTo.isFieldFault {e : ModelError}
    (h : m.ResolvesTo occasion clock supplied (.error e)) : e.IsFieldFault := by
  cases h with
  | unknown => exact .unknown _
  | invalid => exact .refused _ _

/-- Looking for values in other rows finds no fault with the fields. -/
theorem sparesFields_checkUnique (m : Model α) (values : List (String × Value))
    (own : Option OwnRow) : (m.checkUnique values own).SparesFields := by
  refine .forM (fun f => ?_) _
  rw [checkUniqueField]
  cases uniqueValue? values f with
  | none => exact .of_pure ()
  | some check =>
    refine .dialect_bind fun d => (Exchange.SparesFields.of_database _).bind fun taken => ?_
    split
    · exact .of_taken _
    · exact .of_pure ()

/-! ## Looking at an object, inserting it and updating it -/

/-- **A write that ends as the fields decide**: what they refuse is refused and nothing is sent, and
the write fails because of the fields only if they refuse. -/
structure EndsAsDecided (decision : ModelResult Unit) (c : Connection)
    (outcome : ModelResult UInt64 × Connection) : Prop where
  /-- What the fields refuse is refused. -/
  refused : ∀ e, decision = .error e → outcome = (.error e, c)
  /-- A failure of the fields is their refusal. -/
  decided : ∀ e, e.IsFieldFault → outcome.1 = .error e → decision = .error e

/-- **What is written after the checks ends as the fields decide.** -/
theorem endsAsDecided_checkedWrite (m : Model α) (occasion : Occasion) (clock : Clock)
    (supplied : Supplied) (own : Option OwnRow)
    {write : List (String × Value) → ModelExchange UInt64} (hwrite : ∀ v, (write v).SparesFields)
    (c : Connection) :
    EndsAsDecided ((m.resolve occasion clock supplied).map fun _ => ()) c
      ((m.checkedWrite occasion clock supplied own write).runOn c) := by
  rw [checkedWrite, Exchange.runOn_ofResult_bind]
  cases m.resolve occasion clock supplied with
  | error e =>
    refine ⟨?_, fun e' _ he' => ?_⟩
    · rintro _ ⟨⟩
      rfl
    · obtain rfl := Except.error.inj he'
      rfl
  | ok values =>
    refine ⟨?_, fun e hfault he => ?_⟩
    · rintro _ ⟨⟩
    · have hspares := (m.sparesFields_checkUnique values own).bind fun _ => hwrite values
      exact absurd hfault (hspares c e he)

/-- Without automatic values, the chosen value is the same on all occasions. -/
theorem chosenValue_of_not_isAutomatic {f : Field} (h : f.isAutomatic = false)
    (occasion occasion' : Occasion) (clock clock' : Clock) (supplied : Supplied) :
    chosenValue occasion clock supplied f = chosenValue occasion' clock' supplied f := by
  rw [chosenValue, chosenValue, Field.autoValue_of_not_isAutomatic h,
    Field.autoValue_of_not_isAutomatic h]

/-- **Without automatic values, the same values are resolved on all occasions.** -/
theorem resolve_of_not_isAutomatic (h : ∀ f ∈ m.fields, f.isAutomatic = false)
    (occasion occasion' : Occasion) (clock clock' : Clock) (supplied : Supplied) :
    m.resolve occasion clock supplied = m.resolve occasion' clock' supplied := by
  have hfields : ∀ fields : List Field, (∀ f ∈ fields, f.isAutomatic = false) →
      fields.mapM (resolveField occasion clock supplied)
        = fields.mapM (resolveField occasion' clock' supplied) := by
    intro fields hfields
    induction fields with
    | nil => rfl
    | cons f rest ih =>
      obtain ⟨hf, hrest⟩ := List.forall_mem_cons.1 hfields
      rw [List.mapM_cons, List.mapM_cons, ih hrest, resolveField, resolveField,
        chosenValue_of_not_isAutomatic hf occasion occasion' clock clock']
  rw [resolve, resolve, hfields m.fields h]

/-- Inserting ends as the fields decide on insertion. -/
theorem endsAsDecided_insert (m : Model α) (clock : Clock) (supplied : Supplied) (c : Connection) :
    EndsAsDecided ((m.resolve .insertion clock supplied).map fun _ => ()) c
      ((m.insert clock supplied).runOn c) := by
  rw [insert_eq_checkedWrite]
  exact endsAsDecided_checkedWrite m .insertion clock supplied none
    (fun _ => .dialect_bind fun _ => .of_database _) c

/-- Updating an object with a key ends as the fields decide on a change. -/
theorem endsAsDecided_update {key : OwnRow}
    (h : m.presentKey supplied .updateWithoutKey = .ok key) (clock : Clock) (c : Connection) :
    EndsAsDecided ((m.resolve .change clock supplied).map fun _ => ()) c
      ((m.update clock supplied).runOn c) := by
  rw [runOn_update_of_presentKey h]
  exact endsAsDecided_checkedWrite m .change clock supplied (some key)
    (fun _ => .dialect_bind fun _ => .of_database _) c

/-- What is refused when an object is looked at is refused because of the fields. -/
theorem isFieldFault_of_validate {e : ModelError} (h : m.validate clock supplied = .error e) :
    e.IsFieldFault := by
  cases hresolve : m.resolve .validation clock supplied with
  | ok values =>
    rw [validate, hresolve] at h
    cases h
  | error e' =>
    rw [validate, hresolve] at h
    obtain rfl := Except.error.inj h
    exact (resolve_eq_iff.1 hresolve).isFieldFault

/-- An object without a key is not updated, and its fields are not looked at. -/
theorem runOn_update_of_presentKey_error {e : ModelError}
    (h : m.presentKey supplied .updateWithoutKey = .error e) (clock : Clock) (c : Connection) :
    (m.update clock supplied).runOn c = (.error e, c) := by
  rw [update, Exchange.runOn_ofResult_bind, h]

/-- The lack of a key is no fault of the fields. -/
theorem not_isFieldFault_of_presentKey {e : ModelError}
    (h : m.presentKey supplied .updateWithoutKey = .error e) : ¬e.IsFieldFault := by
  cases hpk : m.fields.find? fun f => f.options.primaryKey with
  | none =>
    rw [presentKey_of_none hpk] at h
    obtain rfl := Except.error.inj h
    rintro ⟨⟩
  | some pk =>
    rw [presentKey_of_some hpk] at h
    split at h
    · obtain rfl := Except.error.inj h
      rintro ⟨⟩
    · cases h

/-- **Values are resolved in a fixed order, and alike on all occasions.**  What resolving gives is
laid down for all fields and all values that are supplied.  Without fields that set their value
automatically, all occasions resolve the same values; then inserting an object ends as looking at it
decides, and so does updating it if it has a key.  Without a key, updating fails for that reason
before any field is looked at. -/
theorem values_are_resolved_in_order (m : Model α) (supplied : Supplied) :
    (∀ occasion clock outcome, m.resolve occasion clock supplied = outcome ↔
      m.ResolvesTo occasion clock supplied outcome) ∧
    ((∀ f ∈ m.fields, f.isAutomatic = false) → ∀ clock clock' c,
      let decision := m.validate clock supplied
      let inserted := (m.insert clock' supplied).runOn c
      let updated := (m.update clock' supplied).runOn c
      (∀ occasion, (m.resolve occasion clock' supplied).map (fun _ => ()) = decision) ∧
      (∀ e, decision = .error e → e.IsFieldFault) ∧
      EndsAsDecided decision c inserted ∧
      (∀ key, m.presentKey supplied .updateWithoutKey = .ok key →
        EndsAsDecided decision c updated) ∧
      ∀ e, m.presentKey supplied .updateWithoutKey = .error e →
        ¬e.IsFieldFault ∧ updated = (.error e, c)) := by
  refine ⟨fun _ _ _ => resolve_eq_iff, fun hfields clock clock' c => ?_⟩
  intro decision inserted updated
  have halike : ∀ occasion,
      (m.resolve occasion clock' supplied).map (fun _ => ()) = decision := fun occasion =>
    congrArg (Except.map _) (resolve_of_not_isAutomatic hfields occasion .validation clock' clock _)
  refine ⟨halike, fun e => isFieldFault_of_validate, ?_, fun key hkey => ?_, fun e he => ?_⟩
  · exact halike .insertion ▸ endsAsDecided_insert m clock' supplied c
  · exact halike .change ▸ endsAsDecided_update hkey clock' c
  · exact ⟨not_isFieldFault_of_presentKey he, runOn_update_of_presentKey_error he clock' c⟩

/-- A table of shelves: a primary key and a label of three characters. -/
def shelves : Model Unit :=
  ⟨"shelves", [⟨"id", .bigInteger {}, .ofList [.primaryKey true]⟩,
    ⟨"label", .char 3 none, .ofList []⟩], fun _ => .ok ()⟩

/-- A shelf whose label is too long, without a key. -/
def longLabel : Supplied := [("label", .text "atlas")]

/-- A connection that answers from an empty script. -/
def shelfConnection : Connection := .ofDialect .postgreSql

/-- With a key, inserting and updating the shelf fail as looking at it does, because of the label.
Without one, updating it fails for want of a key. -/
theorem values_are_resolved_of_longLabel :
    (∀ f ∈ shelves.fields, f.isAutomatic = false) ∧
    (∀ supplied ∈ [longLabel, ("id", .int 7) :: longLabel],
      shelves.validate stoppedClock supplied = .error (.validation "label" (.field (.tooLong 3))) ∧
      (shelves.insert stoppedClock supplied).runOn shelfConnection
        = (.error (.validation "label" (.field (.tooLong 3))), shelfConnection)) ∧
    (shelves.update stoppedClock (("id", .int 7) :: longLabel)).runOn shelfConnection
      = (.error (.validation "label" (.field (.tooLong 3))), shelfConnection) ∧
    (shelves.update stoppedClock longLabel).runOn shelfConnection
      = (.error (.validation "id" .updateWithoutKey), shelfConnection) := by
  have hfields : ∀ f ∈ shelves.fields, f.isAutomatic = false := by decide
  have hvalidate : ∀ supplied ∈ [longLabel, ("id", .int 7) :: longLabel],
      shelves.validate stoppedClock supplied
        = .error (.validation "label" (.field (.tooLong 3))) := by
    simp only [List.forall_mem_cons]
    exact ⟨rfl, rfl, by simp⟩
  have hends := fun supplied =>
    (values_are_resolved_in_order shelves supplied).2 hfields stoppedClock stoppedClock
      shelfConnection
  refine ⟨hfields, fun supplied hmem => ⟨hvalidate supplied hmem, ?_⟩, ?_, ?_⟩
  · exact (hends supplied).2.2.1.refused _ (hvalidate supplied hmem)
  · exact ((hends _).2.2.2.1 ("id", .int 7) rfl).refused _ (hvalidate _ (by simp))
  · exact ((hends longLabel).2.2.2.2 _ rfl).2

/-- **Without a key an object is not updated, whatever its fields say**: looking at the shelf and
inserting it fail because of the label, and updating it does not. -/
theorem update_without_key_skips_fields :
    shelves.columns.Nodup ∧ (∀ f ∈ shelves.fields, f.isAutomatic = false) ∧
    shelves.validate stoppedClock longLabel = .error (.validation "label" (.field (.tooLong 3))) ∧
    ((shelves.insert stoppedClock longLabel).runOn shelfConnection).1
      = .error (.validation "label" (.field (.tooLong 3))) ∧
    ((shelves.update stoppedClock longLabel).runOn shelfConnection).1
      ≠ .error (.validation "label" (.field (.tooLong 3))) := by
  refine ⟨by decide, by decide, rfl, rfl, ?_⟩
  have hupdate := runOn_update_of_presentKey_error
    (rfl : shelves.presentKey longLabel .updateWithoutKey = .error (.validation "id" _))
    stoppedClock shelfConnection
  simp [hupdate]

end Model
end SqlBuilder
