import SqlBuilder.Keyword

/-! # Predicate lists

A WHERE or HAVING list is built one token at a time: predicates, and parentheses around groups of
them.  The connector of a token is decided when it is added: the first token of the list or of a
group has none.  Whether the parentheses match is checked when the list is rendered. -/

namespace SqlBuilder

/-- A token of a predicate list. -/
inductive PredicateToken where
  /-- An opening parenthesis. -/
  | opening
  /-- A closing parenthesis. -/
  | closing
  /-- A predicate in SQL. -/
  | predicate (sql : String)
deriving Repr, DecidableEq

/-- The text of a token. -/
def PredicateToken.text : PredicateToken → String
  | .opening => "("
  | .closing => ")"
  | .predicate sql => sql

/-- A token and the connector that joins it to the tokens before it. -/
structure PredicateTerm where
  /-- The connector, unless the token starts a list or a group, or closes one. -/
  connector : Option Connector
  /-- The token. -/
  token : PredicateToken
deriving Repr, DecidableEq

/-- The text of a term: its connector between blanks, then its token. -/
def PredicateTerm.text (t : PredicateTerm) : String :=
  match t.connector with
  | some c => " " ++ c.keyword ++ " " ++ t.token.text
  | none => t.token.text

/-- A WHERE or HAVING list. -/
structure Predicates where
  /-- The terms in the order in which they were added. -/
  terms : List PredicateTerm
deriving Repr, DecidableEq

namespace Predicates

/-- The list without terms. -/
def empty : Predicates := ⟨[]⟩

instance : Inhabited Predicates := ⟨empty⟩

/-- Whether the list has no terms. -/
def isEmpty (p : Predicates) : Bool := p.terms.isEmpty

/-- The connector of the next token: none at the start of the list and of a group. -/
def connectorFor (p : Predicates) (c : Connector) : Option Connector :=
  match p.terms.getLast? with
  | none => none
  | some last => if last.token = .opening then none else some c

/-- Add a predicate. -/
def push (p : Predicates) (c : Connector) (sql : String) : Predicates :=
  ⟨p.terms ++ [⟨p.connectorFor c, .predicate sql⟩]⟩

/-- Start a group. -/
def openGroup (p : Predicates) (c : Connector) : Predicates :=
  ⟨p.terms ++ [⟨p.connectorFor c, .opening⟩]⟩

/-- End a group. -/
def closeGroup (p : Predicates) : Predicates := ⟨p.terms ++ [⟨none, .closing⟩]⟩

@[simp] theorem isEmpty_empty : isEmpty empty = true := rfl

@[simp] theorem connectorFor_empty (c : Connector) : empty.connectorFor c = none := rfl

/-! ## Rendering -/

/-- What is wrong with the parentheses of the tokens, if anything: `depth` groups are open, and
`afterOpening` says whether the token before was an opening parenthesis. -/
def groupFault (depth : Nat) (afterOpening : Bool) : List PredicateToken → Option ArgumentFault
  | [] => if depth = 0 then none else some (.unclosedGroups depth)
  | .opening :: rest => groupFault (depth + 1) true rest
  | .closing :: rest =>
    if depth = 0 then some .unmatchedClose
    else if afterOpening then some .emptyGroup
    else groupFault (depth - 1) false rest
  | .predicate _ :: rest => groupFault depth false rest

/-- The text of the list, unless its parentheses do not match. -/
def render (p : Predicates) : DbResult String :=
  match groupFault 0 false (p.terms.map PredicateTerm.token) with
  | some fault => refuse fault
  | none => .ok (String.join (p.terms.map PredicateTerm.text))

/-- A keyword and the text of the list behind it, or nothing for the empty list. -/
def clause (p : Predicates) (keyword : String) : DbResult String :=
  if p.isEmpty then .ok "" else p.render.map fun sql => keyword ++ sql

/-- The WHERE clause of the list. -/
def whereClause (p : Predicates) : DbResult String := p.clause " WHERE "

/-- The HAVING clause of the list. -/
def havingClause (p : Predicates) : DbResult String := p.clause " HAVING "

@[simp] theorem whereClause_empty : empty.whereClause = .ok "" := rfl

@[simp] theorem havingClause_empty : empty.havingClause = .ok "" := rfl

end Predicates

/-! ## Building lists call by call -/

/-- A change of a predicate list. -/
inductive PredicateCall where
  /-- Add a predicate. -/
  | push (c : Connector) (sql : String)
  /-- Start a group. -/
  | openGroup (c : Connector)
  /-- End a group. -/
  | closeGroup
  /-- Remove all terms. -/
  | clear
deriving Repr, DecidableEq

/-- The list after a change. -/
def Predicates.apply (p : Predicates) : PredicateCall → Predicates
  | .push c sql => p.push c sql
  | .openGroup c => p.openGroup c
  | .closeGroup => p.closeGroup
  | .clear => .empty

/-- The list that a sequence of changes leaves of the empty list. -/
def Predicates.ofCalls (calls : List PredicateCall) : Predicates :=
  calls.foldl Predicates.apply .empty

end SqlBuilder
