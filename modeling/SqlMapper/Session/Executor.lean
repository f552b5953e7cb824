import SqlMapper.Session.Binding
import SqlMapper.Session.Rows

/-!
# The executor: statements on a transaction

An executor owns one transaction. It binds a statement, sends it, and shapes
the rows. Once closed it refuses all work, except that a rollback then does
nothing.

The transaction itself is outside: what it answers to a call is an input,
and what it is sent is recorded. One operation makes each kind of call at
most once.

## Main definitions

* `Call`, `Sent` — a call to the transaction, and a call with its outcome.
* `Answers` — what the transaction answers during one operation.
* `Executor`, `Execution` — the state, and an operation on it.
-/

namespace SqlMapper

/-! ## The transaction -/

/-- A call to the transaction. -/
inductive Call where
  | query (sql : String) (values : List Value)
  | execute (sql : String) (values : List Value)
  | commit
  | rollback
  | close

/-- A call that was made, and whether it succeeded. -/
structure Sent where
  call : Call
  succeeded : Bool

/-- What the transaction answers to each kind of call. -/
structure Answers where
  query : Except Fault (List Row) := .ok []
  execute : Except Fault Nat := .ok 0
  commit : Except Fault Unit := .ok ()
  rollback : Except Fault Unit := .ok ()
  close : Except Fault Unit := .ok ()

/-! ## The log -/

/-- The weight of a log line. -/
inductive LogLevel where
  | debug
  | warn
  deriving DecidableEq, Repr

/-- The name of a weight. -/
def LogLevel.name : LogLevel → String
  | debug => "DEBUG"
  | warn => "WARN"

/-- A line of the executor's log. -/
structure LogLine where
  level : LogLevel
  text : String
  deriving DecidableEq, Repr

/-- A line as it is shown. -/
def LogLine.shown (line : LogLine) : String := line.level.name ++ " " ++ line.text

/-- The values that a statement sends, with the type of each. -/
def parameterText (values : List Value) : String :=
  ", ".intercalate (values.map fun value => s!"{value.text}({value.label})")

/-! ## The executor -/

/-- The state of an executor. -/
structure Executor where
  closed : Bool := false
  /-- Every call made to the transaction, oldest first. -/
  sent : List Sent := []
  log : List LogLine := []

/-- An operation on an executor. What was done before a fault stays done. -/
abbrev Execution := ExceptT Fault (StateM Executor)

namespace Executor

/-- Adds a line to the log. -/
def note (level : LogLevel) (text : String) : StateM Executor Unit :=
  modify fun executor => { executor with log := executor.log ++ [{ level, text }] }

/-- Makes a call that the transaction answers as given. -/
def make {α : Type} (call : Call) (answer : Except Fault α) : Execution α := do
  modify fun executor =>
    { executor with sent := executor.sent ++ [{ call, succeeded := answer.toBool }] }
  answer

/-- Refuses to go on once the executor is closed. -/
def requireOpen : Execution Unit := do
  if (← get).closed then throw .executorClosed

/-- The values that a statement sends for a parameter. -/
def prepare (config : Configuration) (statement : Statement) (parameter : Value) :
    Execution (List Value) := do
  let values ← statement.sql.bind config.types parameter
  note .debug ("==>  Preparing: " ++ statement.sql.sql)
  note .debug ("==> Parameters: " ++ parameterText values)
  return values

/-- Runs a statement that answers with rows. -/
def query (config : Configuration) (answers : Answers) (statement : Statement)
    (parameter : Value) : Execution (List Value) := do
  requireOpen
  let values ← prepare config statement parameter
  let rows ← make (.query statement.sql.sql values) answers.query
  note .debug s!"<==      Total: {rows.length}"
  config.results statement rows

/-- Runs a statement that answers with a number of rows. -/
def update (config : Configuration) (answers : Answers) (statement : Statement)
    (parameter : Value) : Execution Nat := do
  requireOpen
  let values ← prepare config statement parameter
  let count ← make (.execute statement.sql.sql values) answers.execute
  note .debug s!"<==    Updates: {count}"
  return count

/-- Commits, if there is something to commit. -/
def commit (answers : Answers) (required : Bool) : Execution Unit := do
  requireOpen
  if required then make .commit answers.commit

/-- Rolls back, if there is something to roll back. -/
def rollback (answers : Answers) (required : Bool) : Execution Unit := do
  if !(← get).closed && required then make .rollback answers.rollback

/-- Warns about a fault that stops nothing. -/
def warnOf (text : String) (outcome : Except Fault Unit) : StateM Executor Unit :=
  match outcome with
  | .ok () => return ()
  | .error fault => note .warn (text ++ fault.message)

/-- Closes the executor and its transaction, after a rollback if asked for.
Faults on the way are only logged. -/
def close (answers : Answers) (forceRollback : Bool) : StateM Executor Unit := do
  if (← get).closed then return ()
  else
    warnOf "Unexpected exception on rolling back transaction: "
      (← (rollback answers forceRollback).run)
    warnOf "Unexpected exception on closing transaction: " (← (make .close answers.close).run)
    modify fun executor => { executor with closed := true }

end Executor

end SqlMapper
