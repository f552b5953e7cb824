import SqlMapper.Proofs.Run
import SqlMapper.Session.Basic

/-!
# What reaches the transaction

An executor runs a statement in one way, whatever its kind: a closed executor
refuses, a statement whose values cannot be bound ends there, and any other
makes one call, with the compiled SQL and those values. Whatever becomes of
the answer, no second call follows. Closing rolls back if it is asked to, and
makes its own call in any case.

## Main definitions

* `Answers.sentFor` — the call of a statement, with its outcome.
* `Executor.send` — how an executor runs a statement.

## Main results

* `Executor.run_send_of_closed`, `Executor.run_send_of_unbound`,
  `Executor.run_send_sent` — the three ways in which that goes.
* `Executor.run_query_sent`, `Executor.run_update_sent` — the calls of an
  executor.
* `Executor.run_close_of_open` — the calls of closing it.
* `Session.run_selectList_sent`, `Session.run_selectOne_sent`,
  `Session.run_update_sent` — the calls of a session.
-/

namespace SqlMapper

/-- The call that sends SQL of the given kind, and whether it succeeds. -/
def Answers.sentFor (answers : Answers) (kind : StatementKind) (sql : String)
    (values : List Value) : Sent :=
  if kind.isSelect then { call := .query sql values, succeeded := answers.query.toBool }
  else { call := .execute sql values, succeeded := answers.execute.toBool }

/-! ## Executors -/

namespace Executor

variable {config : Configuration} {answers : Answers} {statement : Statement} {parameter : Value}
  {values : List Value} {executor : Executor}

/-- A line of the log keeps everything that is not about the log. -/
theorem keeps_note {P : Executor → Prop} (h : ∀ e log, P e → P { e with log })
    (level : LogLevel) (text : String) : Keeps P (liftM (note level text) : Execution Unit) :=
  keeps_liftState fun e he => h e _ he

theorem run_requireOpen (hopen : executor.closed = false) :
    requireOpen.run executor = (.ok (), executor) := by
  rw [requireOpen, run_bind_of_ok (run_get executor), hopen]
  rfl

theorem run_requireOpen_of_closed (hclosed : executor.closed = true) :
    requireOpen.run executor = (.error .executorClosed, executor) := by
  rw [requireOpen, run_bind_of_ok (run_get executor), hclosed]
  rfl

theorem keeps_requireOpen {P : Executor → Prop} : Keeps P requireOpen := by
  refine Keeps.bind keeps_get fun e => ?_
  split
  · exact keeps_throw _
  · exact keeps_pure _

/-- Preparing makes no call. -/
theorem run_prepare (executor : Executor)
    (hbind : statement.sql.bind config.types parameter = .ok values) :
    ∃ prepared, (prepare config statement parameter).run executor = (.ok values, prepared) ∧
      prepared.sent = executor.sent := by
  unfold prepare
  rw [hbind]
  exact ⟨_, rfl, rfl⟩

theorem run_make {α : Type} (call : Call) (answer : Except Fault α) (executor : Executor) :
    (make call answer).run executor =
      (answer, { executor with
        sent := executor.sent ++ [{ call, succeeded := answer.toBool }] }) := rfl

/-- If nothing is sent behind a call, the call is all that was sent. -/
theorem run_make_sent {α β : Type} {call : Call} {answer : Except Fault α}
    {rest : α → Execution β} (hrest : ∀ a sent, Keeps (fun e => e.sent = sent) (rest a)) :
    ((make call answer >>= rest).run executor).2.sent =
      executor.sent ++ [{ call, succeeded := answer.toBool }] := by
  have hmake := run_make call answer executor
  rcases answer with fault | a
  · rw [run_bind_of_error hmake]
  · rw [run_bind_of_ok hmake]
    exact hrest a _ _ rfl

/-! ### One statement -/

/-- Runs a statement: its values are bound and sent by one call, and the answer
is worked on. -/
def send {α β : Type} (config : Configuration) (statement : Statement) (parameter : Value)
    (call : List Value → Call) (answer : Except Fault α) (rest : α → Execution β) :
    Execution β := do
  requireOpen
  let values ← prepare config statement parameter
  let a ← make (call values) answer
  rest a

section Send

variable {α β : Type} {call : List Value → Call} {answer : Except Fault α}
  {rest : α → Execution β}

theorem run_send_of_closed (hclosed : executor.closed = true) :
    (send config statement parameter call answer rest).run executor =
      (.error .executorClosed, executor) :=
  run_bind_of_error (run_requireOpen_of_closed hclosed)

/-- A statement whose values cannot be bound sends nothing. -/
theorem run_send_of_unbound {fault : Fault} (hopen : executor.closed = false)
    (hbind : statement.sql.bind config.types parameter = .error fault) :
    (send config statement parameter call answer rest).run executor = (.error fault, executor) := by
  have hprepare : (prepare config statement parameter).run executor = (.error fault, executor) := by
    unfold prepare
    rw [hbind, run_bind_of_error (run_lift (Except.error fault) executor)]
  unfold send
  rw [run_bind_of_ok (run_requireOpen hopen), run_bind_of_error hprepare]

/-- On an open executor a statement makes one call with its values. -/
theorem run_send_sent (hopen : executor.closed = false)
    (hbind : statement.sql.bind config.types parameter = .ok values)
    (hrest : ∀ a sent, Keeps (fun e => e.sent = sent) (rest a)) :
    ((send config statement parameter call answer rest).run executor).2.sent =
      executor.sent ++ [{ call := call values, succeeded := answer.toBool }] := by
  obtain ⟨prepared, hprepare, hsent⟩ := run_prepare executor hbind
  unfold send
  rw [run_bind_of_ok (run_requireOpen hopen), run_bind_of_ok hprepare, run_make_sent hrest, hsent]

/-- Running a statement neither opens nor closes an executor. -/
theorem keeps_closed_send {closed : Bool}
    (hrest : ∀ a, Keeps (fun e => e.closed = closed) (rest a)) :
    Keeps (fun e => e.closed = closed) (send config statement parameter call answer rest) := by
  have hnote := keeps_note (P := fun e => e.closed = closed) fun _ _ h => h
  refine Keeps.bind keeps_requireOpen fun _ => Keeps.bind ?_ fun values => Keeps.bind ?_ hrest
  · refine Keeps.bind (keeps_lift _) fun values => ?_
    exact Keeps.bind (hnote _ _) fun _ => Keeps.bind (hnote _ _) fun _ => keeps_pure _
  · exact Keeps.bind (keeps_modify fun _ h => h) fun _ => keeps_lift _

end Send

theorem query_eq_send : query config answers statement parameter =
    send config statement parameter (.query statement.sql.sql) answers.query (fun rows => do
      note .debug s!"<==      Total: {rows.length}"
      config.results statement rows) := rfl

theorem update_eq_send : update config answers statement parameter =
    send config statement parameter (.execute statement.sql.sql) answers.execute (fun count => do
      note .debug s!"<==    Updates: {count}"
      return count) := rfl

/-- A query on an open executor makes one call. -/
theorem run_query_sent (hopen : executor.closed = false)
    (hbind : statement.sql.bind config.types parameter = .ok values) :
    ((query config answers statement parameter).run executor).2.sent =
      executor.sent ++
        [{ call := .query statement.sql.sql values, succeeded := answers.query.toBool }] := by
  rw [query_eq_send, run_send_sent hopen hbind]
  intro rows sent
  exact Keeps.bind (keeps_note (fun _ _ h => h) _ _) fun _ => keeps_lift _

/-- An update on an open executor makes one call. -/
theorem run_update_sent (hopen : executor.closed = false)
    (hbind : statement.sql.bind config.types parameter = .ok values) :
    ((update config answers statement parameter).run executor).2.sent =
      executor.sent ++
        [{ call := .execute statement.sql.sql values, succeeded := answers.execute.toBool }] := by
  rw [update_eq_send, run_send_sent hopen hbind]
  intro count sent
  exact Keeps.bind (keeps_note (fun _ _ h => h) _ _) fun _ => keeps_pure _

/-! ### Rolling back and closing -/

theorem run_rollback (required : Bool) :
    (rollback answers required).run executor =
      if !executor.closed && required then (make .rollback answers.rollback).run executor
      else (.ok (), executor) := by
  rw [rollback, run_bind_of_ok (run_get executor)]
  split <;> rfl

/-- A warning is a line of the log and nothing else. -/
theorem run_warnOf (text : String) (outcome : Except Fault Unit) (executor : Executor) :
    ∃ log, ((warnOf text outcome).run executor).2 = { executor with log } := by
  rcases outcome with fault | _
  · exact ⟨_, rfl⟩
  · exact ⟨_, rfl⟩

theorem run_close_of_closed (hclosed : executor.closed = true) (required : Bool) :
    ((close answers required).run executor).2 = executor := by
  show ((if executor.closed then pure () else _ : StateM Executor Unit).run executor).2 = _
  rw [if_pos hclosed]
  rfl

/-- Closing an open executor rolls back, if that is required, and closes the
transaction, whatever it answers. -/
theorem run_close_of_open (answers : Answers) (hopen : executor.closed = false) (required : Bool) :
    let executor' := ((close answers required).run executor).2
    executor'.closed = true ∧
      executor'.sent = executor.sent ++
        (if required then [{ call := .rollback, succeeded := answers.rollback.toBool }] else []) ++
        [{ call := .close, succeeded := answers.close.toBool }] := by
  intro executor'
  let rolledBack := (rollback answers required).run executor
  let warned := ((warnOf "Unexpected exception on rolling back transaction: " rolledBack.1).run
    rolledBack.2).2
  let made := (make .close answers.close).run warned
  have hrun : executor' =
      { ((warnOf "Unexpected exception on closing transaction: " made.1).run made.2).2 with
        closed := true } := by
    show ((if executor.closed then pure () else _ : StateM Executor Unit).run executor).2 = _
    rw [hopen, if_neg Bool.false_ne_true]
    rfl
  have hrolledBack : rolledBack.2.sent = executor.sent ++
      if required then [{ call := .rollback, succeeded := answers.rollback.toBool }] else [] := by
    show ((rollback answers required).run executor).2.sent = _
    rw [run_rollback, hopen]
    cases required
    · exact (List.append_nil _).symm
    · rfl
  obtain ⟨_, hwarned⟩ := run_warnOf "Unexpected exception on rolling back transaction: "
    rolledBack.1 rolledBack.2
  obtain ⟨_, hmade⟩ := run_warnOf "Unexpected exception on closing transaction: " made.1 made.2
  rw [hrun, hmade]
  refine ⟨rfl, ?_⟩
  show warned.sent ++ _ = _
  rw [show warned.sent = rolledBack.2.sent by rw [show warned = _ from hwarned], hrolledBack]

end Executor

/-! ## Sessions -/

namespace Session

variable {config : Configuration} {answers : Answers} {statement : Statement} {parameter : Value}
  {values : List Value} {session : Session} {id : String}

theorem run_onExecutor {α : Type} (execution : Execution α) :
    (onExecutor execution).run session =
      ((execution.run session.executor).1,
        { session with executor := (execution.run session.executor).2 }) := by
  rw [onExecutor, run_bind_of_ok (run_get session)]
  rcases execution.run session.executor with ⟨_ | _, _⟩ <;> rfl

/-- A list of rows is read by one query. -/
theorem run_selectList_sent (hfound : config.statements.get id = .ok statement)
    (hopen : session.executor.closed = false)
    (hbind : statement.sql.bind config.types parameter = .ok values) :
    ((selectList config answers id parameter).run session).2.executor.sent =
      session.executor.sent ++
        [{ call := .query statement.sql.sql values, succeeded := answers.query.toBool }] := by
  unfold selectList
  rw [hfound, run_bind_of_ok (run_lift (Except.ok statement) session), run_onExecutor]
  exact Executor.run_query_sent hopen hbind

/-- One row is read by one query. -/
theorem run_selectOne_sent (hfound : config.statements.get id = .ok statement)
    (hopen : session.executor.closed = false)
    (hbind : statement.sql.bind config.types parameter = .ok values) :
    ((selectOne config answers id parameter).run session).2.executor.sent =
      session.executor.sent ++
        [{ call := .query statement.sql.sql values, succeeded := answers.query.toBool }] := by
  unfold selectOne
  refine run_bind_of_keeps (P := fun s : Session => s.executor.sent = _)
    (run_selectList_sent hfound hopen hbind) fun rows => ?_
  rcases rows with _ | ⟨value, _ | ⟨_, _⟩⟩
  · exact keeps_pure _
  · exact keeps_pure _
  · exact keeps_throw _

/-- Rows are changed by one update. -/
theorem run_update_sent (hfound : config.statements.get id = .ok statement)
    (hopen : session.executor.closed = false)
    (hbind : statement.sql.bind config.types parameter = .ok values) :
    ((update config answers id parameter).run session).2.executor.sent =
      session.executor.sent ++
        [{ call := .execute statement.sql.sql values, succeeded := answers.execute.toBool }] := by
  unfold update
  rw [hfound, run_bind_of_ok (run_lift (Except.ok statement) session), setDirty,
    run_bind_of_ok (run_modify _ session), run_onExecutor]
  exact Executor.run_update_sent hopen hbind

end Session

end SqlMapper
