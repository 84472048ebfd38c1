import SqlBuilder.Value

/-! # Commands

A command is SQL text for a connection, with parameter values and a mark that says whether a
semicolon ends it. -/

namespace SqlBuilder

/-- SQL text with a semicolon behind it if it is to be terminated. -/
def terminate (sql : String) (terminated : Bool) : String :=
  if terminated then sql ++ ";" else sql

@[simp] theorem terminate_false (sql : String) : terminate sql false = sql := rfl

/-- SQL text for a connection. -/
structure Command where
  /-- The text without a semicolon of its own. -/
  text : String
  /-- The parameter values. -/
  params : List Value
  /-- Whether a semicolon ends the text. -/
  terminated : Bool

namespace Command

/-- The command with a text and no parameters. -/
def ofText (text : String) : Command := ⟨text, [], false⟩

/-- The command with a text and parameters. -/
def withParams (text : String) (params : List Value) : Command := ⟨text, params, false⟩

/-- The command that is terminated or not. -/
def setTerminated (c : Command) (terminated : Bool) : Command := ⟨c.text, c.params, terminated⟩

/-- The text that a connection sees. -/
def sql (c : Command) : String := terminate c.text c.terminated

/-- The text that a connection sees, and the parameters. -/
def parts (c : Command) : String × List Value := (c.sql, c.params)

@[simp] theorem sql_ofText (text : String) : (ofText text).sql = text := rfl

end Command

end SqlBuilder
