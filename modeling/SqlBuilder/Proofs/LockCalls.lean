import Mathlib.Data.List.DropRight
import SqlBuilder.Proofs.LockHints

/-! # What a builder of locks keeps of its calls

Locks are collected by calls that add a table with hints and calls that start over.
`LockBuilder.run_eq` gives the locks after any number of calls: they are those that the calls since
the last reset give, put in one after the other.  With what is known of entries and of lists of
hints, `locks_follow_last_adds` says which tables are locked in which order, that each lock follows
from the hints that came last with its table, and what is sent to take the locks. -/

namespace SqlBuilder

/-! ## Calls -/

/-- A call of a builder of locks. -/
inductive LockCall where
  /-- Lock a table, with some hints. -/
  | add (table : String) (hints : List String)
  /-- Forget the locks. -/
  | reset
deriving DecidableEq

namespace LockCall

/-- The table that a call locks, with its hints. -/
def locked? : LockCall → Option (String × List String)
  | .add table hints => some (table, hints)
  | .reset => none

/-- **The tables that were locked since the last reset**, with their hints, call by call. -/
def lockedSinceReset (calls : List LockCall) : List (String × List String) :=
  (calls.rtakeWhile (· ≠ .reset)).filterMap locked?

/-- A call that locks a table comes last. -/
theorem lockedSinceReset_concat_add (calls : List LockCall) (table : String)
    (hints : List String) :
    lockedSinceReset (calls ++ [.add table hints])
      = lockedSinceReset calls ++ [(table, hints)] := by
  rw [lockedSinceReset, List.rtakeWhile_concat, if_pos (by simp), List.filterMap_append]
  rfl

/-- Nothing is locked after a reset. -/
theorem lockedSinceReset_concat_reset (calls : List LockCall) :
    lockedSinceReset (calls ++ [.reset]) = [] := by
  rw [lockedSinceReset, List.rtakeWhile_concat, if_neg (by simp)]
  rfl

end LockCall

namespace LockBuilder

/-- The locks after one more call. -/
def apply (b : LockBuilder) : LockCall → LockBuilder
  | .add table hints => b.add table hints
  | .reset => b.reset

/-- The locks after some calls. -/
def run (b : LockBuilder) (calls : List LockCall) : LockBuilder := calls.foldl apply b

/-- One more call. -/
theorem run_concat (b : LockBuilder) (calls : List LockCall) (call : LockCall) :
    b.run (calls ++ [call]) = (b.run calls).apply call := by
  rw [run, List.foldl_append]
  rfl

/-- **The locks after some calls** are those since the last reset, put in one after the other. -/
theorem run_eq {b : LockBuilder} (hnone : b.locks = []) (calls : List LockCall) :
    b.run calls = { b with
      locks := Entries.ofPairs ((LockCall.lockedSinceReset calls).map fun given =>
        (given.1, b.lockOf given.1 given.2)) } := by
  -- The last call either puts in one more lock or leaves nothing of the earlier ones.
  induction calls using List.reverseRecOn with
  | nil =>
    rw [run, List.foldl_nil]
    obtain ⟨d, s, locks⟩ := b
    subst hnone
    rfl
  | append_singleton calls call ih =>
    rw [run_concat, ih]
    cases call with
    | add table hints =>
      rw [LockCall.lockedSinceReset_concat_add, List.map_append, List.map_singleton,
        Entries.ofPairs_concat]
      rfl
    | reset =>
      rw [LockCall.lockedSinceReset_concat_reset]
      rfl

end LockBuilder

/-! ## What the locks are -/

/-- **What a lock is for some hints of its table.** -/
structure TableLock.FollowsFrom (lock : TableLock) (d : Dialect) (s : LockSyntax)
    (hints : List String) : Prop where
  /-- The wait instruction is the last among the hints, if there is one. -/
  wait_eq : lock.wait = (s.waitHints hints).getLast?
  /-- Without a mode among the hints the modes are the default ones. -/
  of_no_mode : s.modeHints hints = [] → lock.modes = s.defaultModes
  /-- Where modes combine, they are the modes among the hints, each where it first came. -/
  of_several : s.modeHints hints ≠ [] → s.severalModes = true →
    lock.modes = (s.modeHints hints).eraseDups
  /-- Elsewhere it is the first mode among the hints. -/
  of_first : ∀ mode rest, s.modeHints hints = mode :: rest → s.severalModes = false →
    lock.modes = [mode]
  /-- The clause says so of the quoted table. -/
  clause_eq : lock.clause = d.lockClause (d.identifier lock.table) lock.modes lock.wait

/-- **What locks are for tables with hints**, given in some order. -/
structure LockBuilder.FollowsFrom (b : LockBuilder) (d : Dialect) (s : LockSyntax)
    (given : List (String × List String)) : Prop where
  /-- Every table is locked once, in the order in which the tables first came. -/
  tables_eq : b.lockList.map TableLock.table = (given.map Prod.fst).eraseDups
  /-- A lock follows from the hints with which its table came last. -/
  of_last : ∀ lock ∈ b.lockList, ∃ hints, Entries.lastValue lock.table given = some hints ∧
    lock.FollowsFrom d s hints
  /-- Each lock is taken by its own clause. -/
  commands_eq : d ≠ .mySql → d ≠ .mariaDb → b.commands = b.lockList.map TableLock.clause
  /-- Where a second statement would undo the first, one statement takes all locks, if there are
  any. -/
  commands_eq_of_merged : d = .mySql ∨ d = .mariaDb → b.commands =
    if b.lockList = [] then []
    else ["LOCK TABLES " ++ ", ".intercalate (b.lockList.map TableLock.clause)]

/-- A hint is recognized if it is a wait instruction or a mode. -/
def LockSyntax.Recognizes (s : LockSyntax) (hint : String) : Prop :=
  s.wait.accepts (normalizedHint hint) = true ∨ s.acceptsMode (normalizedHint hint) = true

/-- **A hint that is not recognized changes nothing**, wherever it stands. -/
theorem LockHints.ofList_of_not_recognizes {s : LockSyntax} {hint : String}
    (h : ¬s.Recognizes hint) (before after : List String) :
    ofList s (before ++ hint :: after) = ofList s (before ++ after) := by
  rw [LockSyntax.Recognizes, not_or, Bool.not_eq_true, Bool.not_eq_true] at h
  have hwait : s.waitHints (before ++ hint :: after) = s.waitHints (before ++ after) := by
    simp [LockSyntax.waitHints, h.1]
  have hmode : s.modeHints (before ++ hint :: after) = s.modeHints (before ++ after) := by
    simp [LockSyntax.modeHints, h.2]
  rw [ofList_eq, ofList_eq, hwait, hmode]

namespace LockBuilder

/-- The lock that some hints give follows from them. -/
theorem followsFrom_lockOf (b : LockBuilder) (table : String) (hints : List String) :
    (b.lockOf table hints).FollowsFrom b.dialect b.syntaxRules hints := by
  have hmodes : (b.lockOf table hints).modes = if b.syntaxRules.modeHints hints = [] then
      b.syntaxRules.defaultModes
      else b.syntaxRules.keptModes (b.syntaxRules.modeHints hints) := by
    rw [lockOf, LockHints.ofList_eq]
  refine ⟨?_, fun hnone => ?_, fun hsome hseveral => ?_, fun mode rest hmode hfirst => ?_, rfl⟩
  · rw [lockOf, LockHints.ofList_eq]
  · rw [hmodes, if_pos hnone]
  · rw [hmodes, if_neg hsome, LockSyntax.keptModes, if_pos hseveral]
  · rw [hmodes, hmode, if_neg (by simp), LockSyntax.keptModes, if_neg (by simp [hfirst])]
    rfl

/-- The statements that take some locks. -/
theorem commands_of_dialect (b : LockBuilder) :
    (b.dialect ≠ .mySql → b.dialect ≠ .mariaDb → b.commands = b.lockList.map TableLock.clause) ∧
    (b.dialect = .mySql ∨ b.dialect = .mariaDb → b.commands =
      if b.lockList = [] then []
      else ["LOCK TABLES " ++ ", ".intercalate (b.lockList.map TableLock.clause)]) := by
  obtain ⟨d, s, locks⟩ := b
  constructor
  · intro hmySql hmariaDb
    cases d
    case mySql => exact absurd rfl hmySql
    case mariaDb => exact absurd rfl hmariaDb
    all_goals rfl
  · rintro (rfl | rfl)
    all_goals simp only [commands, Dialect.lockStatements, List.isEmpty_iff, List.map_eq_nil_iff]

/-- **The locks after some calls follow from the tables that were locked since the last reset.** -/
theorem followsFrom_run {b : LockBuilder} (hnone : b.locks = []) (calls : List LockCall) :
    (b.run calls).FollowsFrom b.dialect b.syntaxRules (LockCall.lockedSinceReset calls) := by
  have hcommands := (b.run calls).commands_of_dialect
  rw [run_eq hnone] at hcommands ⊢
  generalize LockCall.lockedSinceReset calls = given at hcommands ⊢
  set pairs := given.map fun given => (given.1, b.lockOf given.1 given.2) with hpairs
  -- A lock stands under the name of its table.
  have hlock : ∀ pair ∈ Entries.ofPairs pairs, pair.2.table = pair.1 := by
    intro pair hpair
    obtain ⟨given, -, rfl⟩ := List.mem_map.1 (Entries.mem_of_mem_ofPairs hpair)
    rfl
  refine ⟨?_, ?_, hcommands.1, hcommands.2⟩
  · have hkeys := Entries.keys_ofPairs pairs
    rw [Entries.keys, hpairs, List.map_map] at hkeys
    rw [lockList, List.map_map]
    exact (List.map_congr_left hlock).trans hkeys
  · intro lock hmem
    obtain ⟨pair, hpair, rfl⟩ := List.mem_map.1 hmem
    have hfind := Entries.find_of_mem (Entries.nodup_ofPairs pairs) hpair
    rw [Entries.find_ofPairs, Entries.lastValue_map_of_key b.lockOf,
      Option.map_eq_some_iff] at hfind
    obtain ⟨hints, hlast, hgiven⟩ := hfind
    rw [hlock pair hpair, ← hgiven]
    exact ⟨hints, hlast, b.followsFrom_lockOf pair.1 hints⟩

/-- A hint that is not recognized may be given or not, in any call. -/
theorem run_of_not_recognizes {b : LockBuilder} {hint : String}
    (h : ¬b.syntaxRules.Recognizes hint) (hnone : b.locks = []) (earlier later : List LockCall)
    (table : String) (before after : List String) :
    b.run (earlier ++ .add table (before ++ hint :: after) :: later) =
      b.run (earlier ++ .add table (before ++ after) :: later) := by
  have hadd : (b.run earlier).add table (before ++ hint :: after) =
      (b.run earlier).add table (before ++ after) := by
    rw [run_eq hnone, add, add, lockOf, lockOf, LockHints.ofList_of_not_recognizes h]
  rw [run, run, List.foldl_append, List.foldl_append, List.foldl_cons, List.foldl_cons]
  exact congrArg (later.foldl apply) hadd

/-- **Locks follow from the last call for each table**, in every dialect that has locks and after
all sequences of calls.  Hints are told apart by the patterns of the dialect, and the ones that
match none change nothing. -/
theorem locks_follow_last_adds {d : Dialect} {s : LockSyntax} (hs : d.lockSyntax = some s) :
    ∃ b, LockBuilder.new d = .ok b ∧
      (∀ calls, (b.run calls).FollowsFrom d s (LockCall.lockedSinceReset calls)) ∧
      (∀ hint, s.wait.accepts hint = true ↔
        ∃ pattern ∈ s.wait.pattern, MatchesPattern pattern hint) ∧
      (∀ hint, s.acceptsMode hint = true ↔ MatchesPattern s.modePattern hint) ∧
      ∀ hint, ¬s.Recognizes hint → ∀ earlier later table before after,
        b.run (earlier ++ .add table (before ++ hint :: after) :: later) =
          b.run (earlier ++ .add table (before ++ after) :: later) := by
  refine ⟨⟨d, s, []⟩, by rw [new, hs], fun calls => ?_, s.wait.accepts_iff, acceptsMode_iff hs, ?_⟩
  · exact followsFrom_run rfl calls
  · intro hint hunrecognized earlier later table before after
    exact run_of_not_recognizes hunrecognized rfl earlier later table before after

/-- Hints of which the second is none of a dialect that combines modes. -/
def rowHints : List String := ["nolock", "wait", " updlock", "nowait", "NoLock"]

/-- The table `u` is added between two calls for `t`, and all of them follow a reset. -/
def rowCalls : List LockCall :=
  [.add "old" [], .reset, .add "t" [], .add "u" rowHints, .add "t" ["rowlock"]]

/-- The tables are locked in the order in which they came since the reset, `u` with two modes; the
hint that is none may be left out. -/
theorem locks_follow_rowCalls : ∃ b, LockBuilder.new .msSql = .ok b ∧
    (b.run rowCalls).lockList.map TableLock.table = ["t", "u"] ∧
    (∃ lock ∈ (b.run rowCalls).lockList, lock.table = "u" ∧
      lock.modes = ["NOLOCK", "UPDLOCK"] ∧ lock.wait = some "NOWAIT") ∧
    b.run [.add "u" rowHints] = b.run [.add "u" ["nolock", " updlock", "nowait", "NoLock"]] := by
  obtain ⟨s, hs, hwaits, hmodes, hseveral, hnone⟩ : ∃ s, Dialect.msSql.lockSyntax = some s ∧
      s.waitHints rowHints = ["NOWAIT"] ∧
      s.modeHints rowHints = ["NOLOCK", "UPDLOCK", "NOLOCK"] ∧ s.severalModes = true ∧
      ¬(s.wait.accepts (normalizedHint "wait") = true ∨
        s.acceptsMode (normalizedHint "wait") = true) :=
    ⟨_, rfl, by decide +kernel, by decide +kernel, rfl, by decide +kernel⟩
  obtain ⟨b, hb, hrun, -, -, hinsert⟩ := locks_follow_last_adds hs
  have hfollows := hrun rowCalls
  have htables : (b.run rowCalls).lockList.map TableLock.table = ["t", "u"] := by
    rw [hfollows.tables_eq]
    decide +kernel
  obtain ⟨lock, hlock, htable⟩ : ∃ lock ∈ (b.run rowCalls).lockList, lock.table = "u" := by
    rw [← List.mem_map, htables]
    simp
  obtain ⟨hints, hlast, hlockFollows⟩ := hfollows.of_last lock hlock
  have hgiven : Entries.lastValue "u" (LockCall.lockedSinceReset rowCalls) = some rowHints := by
    decide +kernel
  rw [htable, hgiven] at hlast
  obtain rfl := Option.some.inj hlast
  refine ⟨b, hb, htables, ⟨lock, hlock, htable, ?_, ?_⟩, ?_⟩
  · rw [hlockFollows.of_several (by rw [hmodes]; simp) hseveral, hmodes]
    decide
  · rw [hlockFollows.wait_eq, hwaits]
    rfl
  · have hleft := hinsert "wait" hnone [] [] "u" ["nolock"] [" updlock", "nowait", "NoLock"]
    rwa [List.nil_append, List.nil_append] at hleft

end LockBuilder

end SqlBuilder
