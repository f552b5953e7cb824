import SqlMapper.Session.Executor

/-!
# Sessions

A session runs statements by id on an executor of its own. It is *dirty*
from the first update on until the next successful commit or rollback. On a
session without autocommit, being dirty is what makes a commit or rollback
reach the transaction; otherwise it has to be forced.
-/

namespace SqlMapper

/-- The state of a session. -/
structure Session where
  executor : Executor := {}
  autocommit : Bool := false
  dirty : Bool := false

/-- An operation on a session. What was done before a fault stays done. -/
abbrev Operation := ExceptT Fault (StateM Session)

namespace Session

/-- A session on a new transaction, if the transaction can be opened. -/
def openWith (answer : Except Fault Unit) (autocommit : Bool) : Except Fault Session := do
  answer
  return { autocommit }

/-- Runs an operation of the executor. -/
def onExecutor {α : Type} (execution : Execution α) : Operation α := do
  let session ← get
  let (outcome, executor) := execution.run session.executor
  set { session with executor }
  outcome

/-- Sets whether there may be something to commit. -/
def setDirty (dirty : Bool) : Operation Unit := modify fun session => { session with dirty }

variable (config : Configuration) (answers : Answers)

/-! ## Statements -/

/-- The values of all rows of a query. -/
def selectList (id : String) (parameter : Value) : Operation (List Value) := do
  let statement ← config.statements.get id
  onExecutor (Executor.query config answers statement parameter)

/-- The value of the only row of a query, `null` without one. -/
def selectOne (id : String) (parameter : Value) : Operation Value := do
  match ← selectList config answers id parameter with
  | [] => return .null
  | [value] => return value
  | values => throw (.tooManyResults values.length)

/-- The number of rows that a statement changed. -/
def update (id : String) (parameter : Value) : Operation Nat := do
  let statement ← config.statements.get id
  setDirty true
  onExecutor (Executor.update config answers statement parameter)

/-! ## Transactions -/

/-- A commit or rollback reaches the transaction. -/
def needsTransaction (session : Session) (force : Bool) : Bool :=
  (!session.autocommit && session.dirty) || force

/-- Commits what was changed. -/
def commit (force : Bool) : Operation Unit := do
  let required := (← get).needsTransaction force
  onExecutor (Executor.commit answers required)
  setDirty false

/-- Takes back what was changed. -/
def rollback (force : Bool) : Operation Unit := do
  let required := (← get).needsTransaction force
  onExecutor (Executor.rollback answers required)
  setDirty false

/-- Closes the session, after a rollback of what was not committed. -/
def close : StateM Session Unit :=
  modify fun session =>
    let required := session.needsTransaction false
    { session with
      executor := ((Executor.close answers required).run session.executor).2
      dirty := false }

end Session

end SqlMapper
