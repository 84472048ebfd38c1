import SqlBuilder.Proofs.DialectMarks
import SqlBuilder.Proofs.EntriesOrder
import SqlBuilder.Proofs.Exchanges
import SqlBuilder.Proofs.TextEnds

/-! # The protocol of table locks

Locks are taken in a transaction of their own and released before it ends.  Any statement on the way
may fail, and the connection may be in a transaction already.  What was sent and whether the
transaction is open afterwards is the same in each case for all dialects and all locks
(`LockBuilder.keeps_protocol`). -/

namespace SqlBuilder

/-! ## Statements in order -/

/-- **What is sent of some statements**, and with which result: all of them, or those up to the
first that the script makes fail. -/
inductive Connection.Sends (c : Connection) (sqls : List String) :
    List String → DbResult Unit → Prop where
  /-- None of them fails. -/
  | all (hnone : ∀ sql ∈ sqls, c.failures.find sql = none) : Sends c sqls sqls (.ok ())
  /-- One of them fails and those before it do not. -/
  | upTo {before rest : List String} {sql message : String} (hsqls : sqls = before ++ sql :: rest)
    (hbefore : ∀ s ∈ before, c.failures.find s = none)
    (hsql : c.failures.find sql = some message) :
    Sends c sqls (before ++ [sql]) (.error (.query message))

namespace Connection.Sends

variable {c : Connection} {sqls sent : List String} {result : DbResult Unit}

/-- Only statements of the list are sent. -/
theorem mem_of_mem (h : c.Sends sqls sent result) {sql : String} (hsql : sql ∈ sent) :
    sql ∈ sqls := by
  cases h with
  | all => exact hsql
  | upTo hsqls =>
    rw [hsqls]
    simp only [List.mem_append, List.mem_cons, List.not_mem_nil, or_false] at hsql ⊢
    rcases hsql with hbefore | rfl
    · exact Or.inl hbefore
    · exact Or.inr (Or.inl rfl)

/-- The result is a success iff no statement fails. -/
theorem ok_iff (h : c.Sends sqls sent result) :
    result = .ok () ↔ ∀ sql ∈ sqls, c.failures.find sql = none := by
  cases h with
  | all hnone => exact ⟨fun _ => hnone, fun _ => rfl⟩
  | @upTo before rest sql message hsqls _ hsql =>
    constructor
    · intro hok
      cases hok
    · intro hnone
      rw [hnone sql (by simp [hsqls])] at hsql
      cases hsql

/-- After a success all statements were sent. -/
theorem eq_of_ok (h : c.Sends sqls sent (.ok ())) : sent = sqls := by
  cases h with
  | all => rfl

/-- The only statement is sent. -/
theorem eq_of_singleton {sql : String} (h : c.Sends [sql] sent result) : sent = [sql] := by
  cases h with
  | all => rfl
  | @upTo before rest s message hsqls =>
    cases before with
    | nil => rw [List.nil_append, (List.cons.inj hsqls).1]
    | cons first before => exact absurd (List.cons.inj hsqls).2 (by simp)

/-- Only the failures of the script matter. -/
theorem of_failures {c' : Connection} (h : c.Sends sqls sent result)
    (hfailures : c'.failures = c.failures) : c'.Sends sqls sent result := by
  cases h with
  | all hnone => exact all (by rwa [hfailures])
  | upTo hsqls hbefore hfails =>
    exact upTo hsqls (by rwa [hfailures]) (by rwa [hfailures])

/-- A statement that does not fail may stand before others. -/
theorem cons {sql : String} (hsql : c.failures.find sql = none) (h : c.Sends sqls sent result) :
    c.Sends (sql :: sqls) (sql :: sent) result := by
  cases h with
  | all hnone => exact all (List.forall_mem_cons.2 ⟨hsql, hnone⟩)
  | upTo hsqls hbefore hfails =>
    rw [hsqls]
    exact upTo (List.cons_append ..).symm (List.forall_mem_cons.2 ⟨hsql, hbefore⟩) hfails

end Connection.Sends

namespace LockBuilder

/-- **Statements are sent in order**, up to the first that fails. -/
theorem runOn_sendAll (sqls : List String) (c : Connection) :
    ∃ sent result, c.Sends sqls sent result ∧
      (sendAll sqls).runOn c = (result, c.logged sent) := by
  induction sqls generalizing c with
  | nil => exact ⟨[], .ok (), .all (by simp), by simp [sendAll]⟩
  | cons sql rest ih =>
    have hexecute := Connection.runOn_execute (.ofText sql) c
    rw [Connection.affectedBy, Command.sql_ofText] at hexecute
    cases hsql : c.failures.find sql with
    | some message =>
      rw [hsql] at hexecute
      refine ⟨[sql], .error (.query message), ?_, ?_⟩
      · exact .upTo (List.nil_append (sql :: rest)).symm (by simp) hsql
      · exact Exchange.runOn_bind_of_error hexecute _
    | none =>
      rw [hsql] at hexecute
      -- The rest is sent after the first statement, with the same script.
      obtain ⟨sent, result, hsends, hrun⟩ := ih (c.logged [sql])
      have hrest : c.Sends rest sent result := hsends.of_failures rfl
      refine ⟨sql :: sent, result, hrest.cons hsql, ?_⟩
      rw [sendAll, Exchange.runOn_bind_of_ok hexecute, hrun, Connection.logged_logged]
      rfl

end LockBuilder

/-! ## Transactions -/

namespace Connection

/-- **What becomes of a transaction that is to be opened.**  The statement is logged in any case; a
failure in the script counts before an open transaction. -/
theorem runOn_beginTransaction (c : Connection) :
    beginTransaction.runOn c =
      match c.failures.find "BEGIN", c.inTransaction with
      | some message, _ => (.error (.query message), c.logged ["BEGIN"])
      | none, true => (.error (.query "a transaction is already active"), c.logged ["BEGIN"])
      | none, false => (.ok (), { c.logged ["BEGIN"] with inTransaction := true }) := by
  have hsend := runOn_send "BEGIN" c
  cases hbegin : c.failures.find "BEGIN" with
  | some message =>
    rw [hbegin] at hsend
    exact Exchange.runOn_bind_of_error hsend _
  | none =>
    rw [hbegin] at hsend
    obtain ⟨source, results, affected, failures, log, inTransaction⟩ := c
    rw [beginTransaction, Exchange.runOn_bind_of_ok hsend]
    cases inTransaction <;> rfl

/-- **What becomes of a transaction that is to be ended.**  The statement is logged in any case; a
failure in the script counts before a transaction that is missing. -/
theorem runOn_endTransaction (sql : String) (c : Connection) :
    (endTransaction sql).runOn c =
      match c.failures.find sql, c.inTransaction with
      | some message, _ => (.error (.query message), c.logged [sql])
      | none, false => (.error (.query "no active transaction"), c.logged [sql])
      | none, true => (.ok (), { c.logged [sql] with inTransaction := false }) := by
  have hsend := runOn_send sql c
  cases hfailure : c.failures.find sql with
  | some message =>
    rw [hfailure] at hsend
    exact Exchange.runOn_bind_of_error hsend _
  | none =>
    rw [hfailure] at hsend
    obtain ⟨source, results, affected, failures, log, inTransaction⟩ := c
    rw [endTransaction, Exchange.runOn_bind_of_ok hsend]
    cases inTransaction <;> rfl

end Connection

/-! ## Lock builders -/

/-- How statements that take locks start. -/
def lockPhrases : List String := ["LOCK TABLE ", "LOCK TABLES ", "SELECT * FROM "]

/-- A clause that is a statement of its own starts with one of these phrases. -/
theorem Dialect.lockClause_start {d : Dialect} (hmariaDb : d ≠ .mariaDb) (hmySql : d ≠ .mySql)
    (table : String) (modes : List String) (wait : Option String) :
    ∃ phrase ∈ lockPhrases, Text.StartsWith phrase (d.lockClause table modes wait) := by
  have select (rest : String) : Text.StartsWith "SELECT * FROM " ("SELECT * FROM " ++ rest) :=
    .of_append _ _
  have lock (rest : String) : Text.StartsWith "LOCK TABLE " ("LOCK TABLE " ++ rest) :=
    .of_append _ _
  cases d
  case mariaDb => exact absurd rfl hmariaDb
  case mySql => exact absurd rfl hmySql
  case msSql => exact ⟨"SELECT * FROM ", by decide, (((select table).append _).append _).append _⟩
  case firebird => exact ⟨"SELECT * FROM ", by decide, ((select table).append _).append _⟩
  all_goals
    exact ⟨"LOCK TABLE ", by decide, ((((lock table).append _).append _).append _).append _⟩

/-- A statement that takes locks starts with one of these phrases. -/
theorem Dialect.lockStatements_start {d : Dialect} {clauses : List String}
    (hclauses : ∀ clause ∈ clauses, ∃ table modes wait, clause = d.lockClause table modes wait)
    {sql : String} (hsql : sql ∈ d.lockStatements clauses) :
    ∃ phrase ∈ lockPhrases, Text.StartsWith phrase sql := by
  have hmerged (hsql : sql ∈ if clauses.isEmpty then []
      else ["LOCK TABLES " ++ ", ".intercalate clauses]) :
      ∃ phrase ∈ lockPhrases, Text.StartsWith phrase sql := by
    split at hsql
    · cases hsql
    · exact ⟨"LOCK TABLES ", by decide, _, List.mem_singleton.1 hsql⟩
  by_cases hmariaDb : d = .mariaDb
  · rw [hmariaDb] at hsql
    exact hmerged hsql
  by_cases hmySql : d = .mySql
  · rw [hmySql] at hsql
    exact hmerged hsql
  have hown : d.lockStatements clauses = clauses := by
    cases d
    case mariaDb => exact absurd rfl hmariaDb
    case mySql => exact absurd rfl hmySql
    all_goals rfl
  rw [hown] at hsql
  obtain ⟨table, modes, wait, rfl⟩ := hclauses sql hsql
  exact lockClause_start hmariaDb hmySql table modes wait

namespace LockBuilder

/-- **A builder that can be made**: a new one, and what further calls make of it. -/
inductive Built : LockBuilder → Prop where
  /-- Nothing is locked yet. -/
  | new {d : Dialect} {b : LockBuilder} (hnew : LockBuilder.new d = .ok b) : Built b
  /-- A table is locked, for the first time or again. -/
  | add {b : LockBuilder} (hb : Built b) (table : String) (hints : List String) :
    Built (b.add table hints)
  /-- The locks are forgotten. -/
  | reset {b : LockBuilder} (hb : Built b) : Built b.reset

/-- A new builder has the rules of its dialect and no locks. -/
theorem exists_syntax_of_new {d : Dialect} {b : LockBuilder} (hnew : LockBuilder.new d = .ok b) :
    ∃ s, d.lockSyntax = some s ∧ b = ⟨d, s, []⟩ := by
  unfold LockBuilder.new at hnew
  split at hnew
  · next s hs => exact ⟨s, hs, (Except.ok.inj hnew).symm⟩
  · cases hnew

/-- A builder keeps the dialect for which it was made, with its rules. -/
theorem Built.lockSyntax_eq {b : LockBuilder} (hb : b.Built) :
    b.dialect.lockSyntax = some b.syntaxRules := by
  induction hb with
  | new hnew =>
    obtain ⟨s, hs, rfl⟩ := exists_syntax_of_new hnew
    exact hs
  | add _ _ _ ih => exact ih
  | reset _ ih => exact ih

/-- Every lock is one that some hints give. -/
theorem Built.exists_lockOf {b : LockBuilder} (hb : b.Built) :
    ∀ lock ∈ b.lockList, ∃ table hints, lock = b.lockOf table hints := by
  induction hb with
  | new hnew =>
    obtain ⟨s, -, rfl⟩ := exists_syntax_of_new hnew
    simp [lockList]
  | @add b _ table hints ih =>
    intro lock hlock
    obtain ⟨⟨key, value⟩, hpair, rfl⟩ := List.mem_map.1 hlock
    rcases Entries.mem_of_mem_put hpair with hnew | hold
    · obtain ⟨-, rfl⟩ := Prod.mk.inj hnew
      exact ⟨table, hints, rfl⟩
    · exact ih value (List.mem_map_of_mem hold)
  | reset => simp [LockBuilder.reset, lockList]

/-- The clause of every lock is written by the dialect. -/
theorem Built.clause_eq {b : LockBuilder} (hb : b.Built) :
    ∀ clause ∈ b.lockList.map TableLock.clause,
      ∃ table modes wait, clause = b.dialect.lockClause table modes wait := by
  intro clause hclause
  obtain ⟨lock, hlock, rfl⟩ := List.mem_map.1 hclause
  obtain ⟨table, hints, rfl⟩ := hb.exists_lockOf lock hlock
  exact ⟨_, _, _, rfl⟩

/-- **No statement that takes locks ends a transaction.** -/
theorem Built.not_mem_commands {b : LockBuilder} (hb : b.Built) :
    "COMMIT" ∉ b.commands ∧ "ROLLBACK" ∉ b.commands := by
  -- The phrases start with other letters.
  have hhead (sql : String) (hsql : sql ∈ b.commands) :
      sql.toList.head? = some 'L' ∨ sql.toList.head? = some 'S' := by
    obtain ⟨phrase, hphrase, hstart⟩ := Dialect.lockStatements_start hb.clause_eq hsql
    simp only [lockPhrases, List.mem_cons, List.not_mem_nil, or_false] at hphrase
    rcases hphrase with rfl | rfl | rfl
    · exact Or.inl (hstart.head?_eq (by decide))
    · exact Or.inl (hstart.head?_eq (by decide))
    · exact Or.inr (hstart.head?_eq (by decide))
  constructor
  · intro hcommit
    exact absurd (hhead _ hcommit) (by decide)
  · intro hrollback
    exact absurd (hhead _ hrollback) (by decide)

end LockBuilder

/-! ## Methods to end a transaction -/

/-- **Whether a method says to undo a transaction**: it is the word `rollback` in any letter case,
with blanks on both sides or without. -/
def SaysRollback (method : String) : Prop :=
  ∃ before word after : List Char, method.toList = before ++ word ++ after ∧
    (∀ c ∈ before, Text.isBlank c = true) ∧ (∀ c ∈ after, Text.isBlank c = true) ∧
      word.map Char.toLower = "rollback".toList

/-- The method is compared with the word after it was trimmed. -/
theorem equalIgnoringCase_trim_iff (method : String) :
    Text.equalIgnoringCase (Text.trim method) "ROLLBACK" = true ↔ SaysRollback method := by
  have hcompare : Text.equalIgnoringCase (Text.trim method) "ROLLBACK" = true ↔
      (Text.trimChars method.toList).map Char.toLower = "rollback".toList := by
    have hword : Text.lower "ROLLBACK" = "rollback" := by decide +kernel
    rw [Text.equalIgnoringCase, beq_iff_eq, hword, Text.lower, ← String.toList_inj]
    simp
  rw [hcompare]
  constructor
  · intro htrim
    obtain ⟨before, after, hmethod, hbefore, hafter⟩ :=
      Text.exists_eq_append_trimChars method.toList
    exact ⟨before, _, after, hmethod, hbefore, hafter, htrim⟩
  · rintro ⟨before, word, after, hmethod, hbefore, hafter, hword⟩
    have hhead : (word.map Char.toLower).head? = some 'r' := by rw [hword]; rfl
    have hlast : (word.map Char.toLower).getLast? = some 'k' := by rw [hword]; rfl
    rw [List.head?_map, Option.map_eq_some_iff] at hhead
    rw [List.getLast?_map, Option.map_eq_some_iff] at hlast
    obtain ⟨first, hfirst, hr⟩ := hhead
    obtain ⟨last, hlast, hk⟩ := hlast
    rw [hmethod, Text.trimChars_append hbefore hafter, hword]
    · rw [hfirst]
      rintro _ ⟨⟩
      exact Text.not_isBlank_of_toLower hr (by decide)
    · rw [hlast]
      rintro _ ⟨⟩
      exact Text.not_isBlank_of_toLower hk (by decide)

/-! ## Taking and releasing locks -/

/-- **What becomes of a connection on which locks are taken.** -/
structure LockBuilder.Acquires (b : LockBuilder) (c : Connection) (result : DbResult Unit)
    (c' : Connection) : Prop where
  /-- The beginning of a transaction is logged first, and its end is not logged at all. -/
  log_eq : ∃ sent, c'.log = c.log ++ "BEGIN" :: sent ∧ "COMMIT" ∉ sent ∧ "ROLLBACK" ∉ sent
  /-- If no transaction can be opened, that is the failure, and no lock is asked for. -/
  of_refused : ((c.failures.find "BEGIN").isSome = true ∨ c.inTransaction = true) →
    result = .error
        (.query ((c.failures.find "BEGIN").getD "a transaction is already active")) ∧
      c' = c.logged ["BEGIN"]
  /-- Otherwise the locks are asked for up to the first that fails, and the transaction stays
  open. -/
  of_begun : c.failures.find "BEGIN" = none → c.inTransaction = false →
    ∃ sent, c.Sends b.commands sent result ∧
      c' = { c.logged ("BEGIN" :: sent) with inTransaction := true }
  /-- The locks are taken iff a transaction can be opened and no statement fails. -/
  ok_iff : result = .ok () ↔ c.failures.find "BEGIN" = none ∧ c.inTransaction = false ∧
    ∀ sql ∈ b.commands, c.failures.find sql = none

/-- **What becomes of a connection whose transaction is ended by a statement.** -/
structure Connection.Ends (c : Connection) (sql : String) (result : DbResult Unit)
    (c' : Connection) : Prop where
  /-- It is ended iff the statement does not fail and there is one. -/
  ok_iff : result = .ok () ↔ c.failures.find sql = none ∧ c.inTransaction = true
  /-- Then it is closed. -/
  of_ok : result = .ok () → c' = { c.logged [sql] with inTransaction := false }
  /-- Otherwise nothing but the log changes. -/
  of_error : ∀ e, result = .error e →
    e = .query ((c.failures.find sql).getD "no active transaction") ∧ c' = c.logged [sql]

/-- **What becomes of a connection on which locks are released.** -/
structure LockBuilder.Releases (b : LockBuilder) (c : Connection) (method : String)
    (result : DbResult Unit) (c' : Connection) : Prop where
  /-- A statement that unlocks tables and fails is the last one that is sent. -/
  of_locked : ¬(∀ sql ∈ b.dialect.unlockStatements, c.failures.find sql = none) →
    ∃ sent e, c.Sends b.dialect.unlockStatements sent (.error e) ∧ result = .error e ∧
      c' = c.logged sent ∧ "COMMIT" ∉ sent ∧ "ROLLBACK" ∉ sent
  /-- After these statements the transaction is ended as the method says. -/
  of_unlocked : (∀ sql ∈ b.dialect.unlockStatements, c.failures.find sql = none) →
    ∃ ending, (ending = "ROLLBACK" ∧ SaysRollback method ∨
        ending = "COMMIT" ∧ ¬SaysRollback method) ∧
      (c.logged b.dialect.unlockStatements).Ends ending result c'

/-- A transaction is ended by a statement. -/
theorem Connection.ends_endTransaction (sql : String) (c : Connection) :
    c.Ends sql ((endTransaction sql).runOn c).1 ((endTransaction sql).runOn c).2 := by
  rw [runOn_endTransaction]
  cases hfailure : c.failures.find sql with
  | some message =>
    refine ⟨by simp [hfailure], ?_, ?_⟩
    · intro hok
      cases hok
    · rintro _ ⟨⟩
      exact ⟨by rw [hfailure]; rfl, rfl⟩
  | none =>
    cases hopen : c.inTransaction with
    | true =>
      refine ⟨by simp [hfailure, hopen], fun _ => rfl, ?_⟩
      rintro _ ⟨⟩
    | false =>
      refine ⟨by simp [hopen], ?_, ?_⟩
      · intro hok
        cases hok
      · rintro _ ⟨⟩
        exact ⟨by rw [hfailure]; rfl, rfl⟩

namespace LockBuilder

variable {b : LockBuilder}

/-- **Locks are taken in a transaction of their own.** -/
theorem Built.acquires (hb : b.Built) (c : Connection) :
    b.Acquires c (b.acquire.runOn c).1 (b.acquire.runOn c).2 := by
  have hbegin := Connection.runOn_beginTransaction c
  cases hfailure : c.failures.find "BEGIN" with
  | some message =>
    rw [hfailure] at hbegin
    rw [acquire, Exchange.runOn_bind_of_error hbegin]
    exact {
      log_eq := ⟨[], rfl, by simp, by simp⟩
      of_refused := fun _ => ⟨by rw [hfailure]; rfl, rfl⟩
      of_begun := by simp [hfailure]
      ok_iff := by simp [hfailure] }
  | none =>
    cases hopen : c.inTransaction with
    | true =>
      rw [hfailure, hopen] at hbegin
      rw [acquire, Exchange.runOn_bind_of_error hbegin]
      exact {
        log_eq := ⟨[], rfl, by simp, by simp⟩
        of_refused := fun _ => ⟨by rw [hfailure]; rfl, rfl⟩
        of_begun := by simp [hopen]
        ok_iff := by simp [hopen] }
    | false =>
      rw [hfailure, hopen] at hbegin
      obtain ⟨sent, result, hsends, hrun⟩ :=
        runOn_sendAll b.commands { c.logged ["BEGIN"] with inTransaction := true }
      have hlocks : c.Sends b.commands sent result := hsends.of_failures rfl
      rw [acquire, Exchange.runOn_bind_of_ok hbegin, hrun]
      exact {
        log_eq := ⟨sent, by simp [Connection.logged],
          fun hcommit => hb.not_mem_commands.1 (hlocks.mem_of_mem hcommit),
          fun hrollback => hb.not_mem_commands.2 (hlocks.mem_of_mem hrollback)⟩
        of_refused := by simp [hfailure, hopen]
        of_begun := fun _ _ => ⟨sent, hlocks, by simp [Connection.logged]⟩
        ok_iff := by simpa [hfailure, hopen] using hlocks.ok_iff }

/-- **Locks are released before the transaction is ended.** -/
theorem releases (b : LockBuilder) (c : Connection) (method : String) :
    b.Releases c method ((b.release method).runOn c).1 ((b.release method).runOn c).2 := by
  obtain ⟨sent, result, hsends, hrun⟩ := runOn_sendAll b.dialect.unlockStatements c
  have hending := b.dialect.not_mem_unlockStatements
  cases result with
  | error e =>
    rw [release, Exchange.runOn_bind_of_error hrun]
    refine ⟨fun _ => ⟨sent, e, hsends, rfl, rfl, ?_, ?_⟩, ?_⟩
    · exact fun hcommit => hending.1 (hsends.mem_of_mem hcommit)
    · exact fun hrollback => hending.2 (hsends.mem_of_mem hrollback)
    · intro hnone
      cases hsends.ok_iff.2 hnone
  | ok _ =>
    have hnone := hsends.ok_iff.1 rfl
    rw [hsends.eq_of_ok] at hrun
    rw [release, Exchange.runOn_bind_of_ok hrun]
    refine ⟨fun hfails => absurd hnone hfails, fun _ => ?_⟩
    by_cases hmethod : SaysRollback method
    · rw [if_pos ((equalIgnoringCase_trim_iff method).2 hmethod)]
      exact ⟨"ROLLBACK", Or.inl ⟨rfl, hmethod⟩, Connection.ends_endTransaction _ _⟩
    · rw [if_neg fun hrollback => hmethod ((equalIgnoringCase_trim_iff method).1 hrollback)]
      exact ⟨"COMMIT", Or.inr ⟨rfl, hmethod⟩, Connection.ends_endTransaction _ _⟩

/-- **The protocol of locks** on a connection with any script, whether a transaction is open or
not, for every builder that can be made and every method to end the transaction. -/
theorem keeps_protocol (hb : b.Built) (c : Connection) (method : String) :
    b.Acquires c (b.acquire.runOn c).1 (b.acquire.runOn c).2 ∧
      b.Releases c method ((b.release method).runOn c).1 ((b.release method).runOn c).2 :=
  ⟨hb.acquires c, b.releases c method⟩

/-- Two locks in a dialect that asks for both in one statement. -/
def twoLocks : LockBuilder :=
  (LockBuilder.add ⟨.mySql, ⟨["READ", "READ LOCAL", "WRITE", "LOW_PRIORITY WRITE"], .never,
    ["WRITE"], false⟩, []⟩ "a" []).add "b" []

/-- A connection on which these locks cannot be taken. -/
def busy : Connection :=
  (Connection.ofDialect .mySql).failOn "LOCK TABLES `a` WRITE, `b` WRITE" "lock timeout"

/-- The locks are refused, which leaves the transaction open, and it can be undone: the tables are
unlocked and the transaction is rolled back. -/
theorem keeps_protocol_of_busy :
    twoLocks.Built ∧ ∃ refused released,
      twoLocks.acquire.runOn busy = refused ∧
      (twoLocks.release " Rollback\n").runOn refused.2 = released ∧
      refused.1 ≠ .ok () ∧
      refused.2.log = ["BEGIN", "LOCK TABLES `a` WRITE, `b` WRITE"] ∧
      refused.2.inTransaction = true ∧
      released.1 = .ok () ∧
      released.2.log
        = ["BEGIN", "LOCK TABLES `a` WRITE, `b` WRITE", "UNLOCK TABLES", "ROLLBACK"] ∧
      released.2.inTransaction = false := by
  have hbuilt : twoLocks.Built := ((Built.new (d := .mySql) rfl).add "a" []).add "b" []
  have hcommands : twoLocks.commands = ["LOCK TABLES `a` WRITE, `b` WRITE"] := by decide +kernel
  have hacquires := (keeps_protocol hbuilt busy "").1
  -- From here on, what the theorem says is all that is known of the runs.
  refine ⟨hbuilt, _, _, rfl, rfl, ?_⟩
  generalize twoLocks.acquire.runOn busy = refused at hacquires ⊢
  have hreleases := (keeps_protocol hbuilt refused.2 " Rollback\n").2
  generalize (twoLocks.release " Rollback\n").runOn refused.2 = released at hreleases ⊢
  have hrefused : refused.1 ≠ .ok () := by
    intro hok
    have hnone := (hacquires.ok_iff.1 hok).2.2
    rw [hcommands] at hnone
    exact absurd (hnone _ (List.mem_singleton_self _)) (by decide +kernel)
  obtain ⟨sent, hsends, hstate⟩ := hacquires.of_begun (by decide +kernel) rfl
  rw [hcommands] at hsends
  obtain rfl := hsends.eq_of_singleton
  have hrefusedLog : refused.2.log = ["BEGIN", "LOCK TABLES `a` WRITE, `b` WRITE"] := by
    rw [hstate]
    rfl
  have hrefusedOpen : refused.2.inTransaction = true := by rw [hstate]
  -- Nothing that is sent to release the locks fails.
  have hfailures : refused.2.failures = busy.failures := by
    rw [hstate]
    rfl
  have hunlocks : ∀ sql ∈ twoLocks.dialect.unlockStatements,
      refused.2.failures.find sql = none := by
    rw [hfailures]
    decide +kernel
  have hpasses : refused.2.failures.find "ROLLBACK" = none := by
    rw [hfailures]
    decide +kernel
  obtain ⟨ending, hending, hends⟩ := hreleases.of_unlocked hunlocks
  have hmethod : SaysRollback " Rollback\n" := by
    refine ⟨[' '], "Rollback".toList, ['\n'], by decide, ?_, ?_, by decide⟩
    · exact List.forall_mem_singleton.2 (by decide)
    · exact List.forall_mem_singleton.2 (by decide)
  obtain rfl : ending = "ROLLBACK" := by
    rcases hending with ⟨h, -⟩ | ⟨-, h⟩
    · exact h
    · exact absurd hmethod h
  have hreleased : released.1 = .ok () := hends.ok_iff.2 ⟨hpasses, hrefusedOpen⟩
  have hclosed := hends.of_ok hreleased
  refine ⟨hrefused, hrefusedLog, hrefusedOpen, hreleased, ?_, by rw [hclosed]⟩
  have hlog : released.2.log = refused.2.log ++ ["UNLOCK TABLES"] ++ ["ROLLBACK"] := by
    rw [hclosed]
    rfl
  rw [hlog, hrefusedLog]
  rfl

end LockBuilder

end SqlBuilder
