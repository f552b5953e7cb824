import SqlMapper.Mapper.Dispatch
import SqlMapper.Proofs.Session.Sending

/-!
# The history of a session

A session selects and updates, it commits and rolls back, and in the end it is
closed. Every action may fail, and the transaction may answer anything. What
matters of an action is little: the calls that it makes, and whether the
session is dirty afterwards. This module says once what that can be; every
invariant of sessions is a case analysis of it.

## Main definitions

* `Session.Action`, `Session.after` — the actions, and the session after a
  history of them.
* `Session.Step` — what an action does that does not close the session.

## Main results

* `Session.exists_step` — every action but closing makes such a step.
* `Session.perform_close_of_open`, `Session.perform_close_of_closed` — what
  closing does.
* `Session.after_keeps` — what steps and closing keep, every history keeps.
-/

namespace SqlMapper.Session

/-! ## Actions -/

/-- An action on a session. Inserts, updates and deletes are all updates, and a
session that is dropped is closed. -/
inductive Action where
  | selectList (config : Configuration) (id : String) (parameter : Value)
  | selectOne (config : Configuration) (id : String) (parameter : Value)
  | update (config : Configuration) (id : String) (parameter : Value)
  /-- The call of a mapper method. -/
  | call (config : Configuration) (bound : BoundMethod) (arguments : List Value)
  | commit (force : Bool)
  | rollback (force : Bool)
  | close

/-- The session after an action, whether it succeeds or fails. -/
def Action.perform (answers : Answers) (session : Session) : Action → Session
  | selectList config id parameter =>
      ((Session.selectList config answers id parameter).run session).2
  | selectOne config id parameter =>
      ((Session.selectOne config answers id parameter).run session).2
  | update config id parameter => ((Session.update config answers id parameter).run session).2
  | call config bound arguments => ((bound.call config answers arguments).run session).2
  | commit force => ((Session.commit answers force).run session).2
  | rollback force => ((Session.rollback answers force).run session).2
  | close => ((Session.close answers).run session).2

/-- The session after a history of actions, each with what the transaction
answers during it. -/
def after (session : Session) (history : List (Action × Answers)) : Session :=
  history.foldl (fun session turn => turn.1.perform turn.2 session) session

/-! ## Steps -/

/-- What an action can do that does not close the session: the calls that it
makes, and whether the session is dirty afterwards. A closed session makes no
call. -/
inductive Effect (session : Session) : List Sent → (dirty : Bool) → Prop where
  | refuse : Effect session [] session.dirty
  | query {sql : String} {values : List Value} {succeeded : Bool}
      (hopen : session.executor.closed = false) :
      Effect session [{ call := .query sql values, succeeded }] session.dirty
  /-- An update whose values cannot be bound, or on a closed session. -/
  | touch : Effect session [] true
  | execute {sql : String} {values : List Value} {succeeded : Bool}
      (hopen : session.executor.closed = false) :
      Effect session [{ call := .execute sql values, succeeded }] true
  /-- A commit or rollback that has nothing to send. -/
  | clear (hidle : session.executor.closed = true ∨ session.needsTransaction false = false) :
      Effect session [] false
  /-- A commit or rollback leaves the session dirty if it fails. -/
  | finish {call : Call} {succeeded : Bool} (hcall : call = .commit ∨ call = .rollback)
      (hopen : session.executor.closed = false) :
      Effect session [{ call, succeeded }] (if succeeded then false else session.dirty)

/-- The session changes by the effect of an action, and in nothing else but its
log. -/
structure Step (session : Session) (calls : List Sent) (session' : Session) : Prop where
  sent : session'.executor.sent = session.executor.sent ++ calls
  closed : session'.executor.closed = session.executor.closed
  autocommit : session'.autocommit = session.autocommit
  effect : Effect session calls session'.dirty

variable {session : Session} {answers : Answers} {config : Configuration} {id : String}
  {parameter : Value}

theorem Step.refl (session : Session) : Step session [] session where
  sent := (List.append_nil _).symm
  closed := rfl
  autocommit := rfl
  effect := .refuse

/-! ### Statements -/

/-- A statement is refused, or it cannot be bound, or it is sent once. -/
theorem run_send_cases {α β : Type} {statement : Statement} {call : List Value → Call}
    (answer : Except Fault α) {rest : α → Execution β} (executor : Executor)
    (hsent : ∀ a sent, Keeps (fun e => e.sent = sent) (rest a))
    (hclosed : ∀ a closed, Keeps (fun e => e.closed = closed) (rest a)) :
    let executor' := ((Executor.send config statement parameter call answer rest).run executor).2
    executor'.closed = executor.closed ∧
      (executor'.sent = executor.sent ∨ executor.closed = false ∧
        ∃ values, executor'.sent =
          executor.sent ++ [{ call := call values, succeeded := answer.toBool }]) := by
  intro executor'
  refine ⟨Executor.keeps_closed_send (fun a => hclosed a _) executor rfl, ?_⟩
  by_cases hopen : executor.closed = false
  · rcases hbind : statement.sql.bind config.types parameter with fault | values
    · left
      show ((Executor.send config statement parameter call answer rest).run executor).2.sent = _
      rw [Executor.run_send_of_unbound hopen hbind]
    · exact .inr ⟨hopen, values, Executor.run_send_sent hopen hbind hsent⟩
  · left
    show ((Executor.send config statement parameter call answer rest).run executor).2.sent = _
    rw [Executor.run_send_of_closed (by simpa using hopen)]

theorem exists_step_selectList (config : Configuration) (answers : Answers) (id : String)
    (parameter : Value) (session : Session) :
    ∃ calls, Step session calls ((selectList config answers id parameter).run session).2 := by
  unfold selectList
  rcases config.statements.get id with fault | statement
  · exact ⟨[], .refl session⟩
  · rw [run_bind_of_ok (run_lift (Except.ok statement) session), run_onExecutor,
      Executor.query_eq_send]
    have hnote {P : Executor → Prop} (h : ∀ e log, P e → P { e with log }) (rows : List Row) :
        Keeps P (do
          Executor.note .debug s!"<==      Total: {rows.length}"
          config.results statement rows : Execution (List Value)) :=
      Keeps.bind (Executor.keeps_note h _ _) fun _ => keeps_lift _
    obtain ⟨hclosed, hsent | ⟨hopen, values, hsent⟩⟩ :=
      run_send_cases answers.query session.executor
        (fun rows sent => hnote (fun _ _ h => h) rows)
        (fun rows closed => hnote (fun _ _ h => h) rows)
    · exact ⟨[], by simpa using hsent, hclosed, rfl, .refuse⟩
    · exact ⟨_, hsent, hclosed, rfl, .query hopen⟩

theorem exists_step_selectOne (config : Configuration) (answers : Answers) (id : String)
    (parameter : Value) (session : Session) :
    ∃ calls, Step session calls ((selectOne config answers id parameter).run session).2 := by
  refine run_bind_of_keeps (P := fun session' => ∃ calls, Step session calls session')
    (exists_step_selectList config answers id parameter session) fun rows => ?_
  rcases rows with _ | ⟨value, _ | ⟨_, _⟩⟩
  · exact keeps_pure _
  · exact keeps_pure _
  · exact keeps_throw _

theorem exists_step_update (config : Configuration) (answers : Answers) (id : String)
    (parameter : Value) (session : Session) :
    ∃ calls, Step session calls ((update config answers id parameter).run session).2 := by
  unfold update
  rcases config.statements.get id with fault | statement
  · exact ⟨[], .refl session⟩
  · rw [run_bind_of_ok (run_lift (Except.ok statement) session), setDirty,
      run_bind_of_ok (run_modify _ session), run_onExecutor, Executor.update_eq_send]
    have hnote {P : Executor → Prop} (h : ∀ e log, P e → P { e with log }) (count : Nat) :
        Keeps P (do
          Executor.note .debug s!"<==    Updates: {count}"
          return count : Execution Nat) :=
      Keeps.bind (Executor.keeps_note h _ _) fun _ => keeps_pure _
    obtain ⟨hclosed, hsent | ⟨hopen, values, hsent⟩⟩ :=
      run_send_cases answers.execute session.executor
        (fun count sent => hnote (fun _ _ h => h) count)
        (fun count closed => hnote (fun _ _ h => h) count)
    · exact ⟨[], by simpa using hsent, hclosed, rfl, .touch⟩
    · exact ⟨_, hsent, hclosed, rfl, .execute hopen⟩

/-- A call of a mapper method does what its statement does. -/
theorem exists_step_call (config : Configuration) (answers : Answers) (bound : BoundMethod)
    (arguments : List Value) (session : Session) :
    ∃ calls, Step session calls ((bound.call config answers arguments).run session).2 := by
  let P : Session → Prop := fun session' => ∃ calls, Step session calls session'
  unfold BoundMethod.call
  rcases bound.method.parameter arguments with fault | parameter
  · exact ⟨[], .refl session⟩
  · rw [run_bind_of_ok (run_lift (Except.ok parameter) session)]
    cases bound.kind with
    | unknown => exact ⟨[], .refl session⟩
    | insert | update | delete =>
        exact run_bind_of_keeps (P := P) (exists_step_update config answers _ parameter session)
          fun rows => keeps_lift _
    | select =>
        dsimp only
        split
        · exact run_bind_of_keeps (P := P) (exists_step_selectList config answers _ parameter session)
            fun rows => keeps_pure _
        · exact run_bind_of_keeps (P := P) (exists_step_selectList config answers _ parameter session)
            fun rows => keeps_pure _
        · exact run_bind_of_keeps (P := P) (exists_step_selectOne config answers _ parameter session)
            fun row => keeps_lift _

/-! ### Transactions -/

theorem needsTransaction_false_of_false {force : Bool}
    (h : session.needsTransaction force = false) : session.needsTransaction false = false := by
  unfold needsTransaction at h ⊢
  rw [(Bool.or_eq_false_iff.mp h).1]
  rfl

/-- A commit or rollback makes its call if the session is open and needs it. It
leaves the session clean if it succeeds. -/
theorem exists_step_finish {execution : Execution Unit} {call : Call}
    (answer : Except Fault Unit) (force : Bool) (hcall : call = .commit ∨ call = .rollback)
    (hidle : session.executor.closed = true ∨ session.needsTransaction force = false →
      (execution.run session.executor).2 = session.executor)
    (hmake : session.executor.closed = false → session.needsTransaction force = true →
      execution.run session.executor = (Executor.make call answer).run session.executor) :
    ∃ calls, Step session calls
      ((do onExecutor execution; setDirty false : Operation Unit).run session).2 := by
  rw [run_bind, run_onExecutor]
  by_cases hneeded : session.executor.closed = true ∨ session.needsTransaction force = false
  · rw [hidle hneeded]
    rcases (execution.run session.executor).1 with fault | _
    · exact ⟨[], .refl session⟩
    · refine ⟨[], (List.append_nil _).symm, rfl, rfl, .clear ?_⟩
      exact hneeded.imp_right needsTransaction_false_of_false
  · obtain ⟨hopen, hforce⟩ : session.executor.closed = false ∧
        session.needsTransaction force = true := by simpa using hneeded
    have heffect : Effect session [{ call, succeeded := answer.toBool }] _ := .finish hcall hopen
    rw [hmake hopen hforce, Executor.run_make]
    rcases answer with fault | _
    · exact ⟨_, rfl, rfl, rfl, heffect⟩
    · exact ⟨_, rfl, rfl, rfl, heffect⟩

theorem exists_step_commit (answers : Answers) (force : Bool) (session : Session) :
    ∃ calls, Step session calls ((commit answers force).run session).2 := by
  rw [commit, run_bind_of_ok (run_get session)]
  refine exists_step_finish answers.commit force (.inl rfl) ?_ ?_
  · rintro (hclosed | hforce)
    · rw [Executor.commit, run_bind_of_error (Executor.run_requireOpen_of_closed hclosed)]
    · rw [hforce]
      have hkeeps : Keeps (· = session.executor) (Executor.commit answers false) :=
        Keeps.bind Executor.keeps_requireOpen fun _ => keeps_pure _
      exact hkeeps _ rfl
  · intro hopen hforce
    rw [Executor.commit, run_bind_of_ok (Executor.run_requireOpen hopen), hforce, if_pos rfl]

theorem exists_step_rollback (answers : Answers) (force : Bool) (session : Session) :
    ∃ calls, Step session calls ((rollback answers force).run session).2 := by
  rw [rollback, run_bind_of_ok (run_get session)]
  refine exists_step_finish answers.rollback force (.inr rfl) ?_ ?_
  · intro hidle
    rw [Executor.run_rollback, if_neg]
    rcases hidle with hclosed | hforce
    · simp [hclosed]
    · simp [hforce]
  · intro hopen hforce
    rw [Executor.run_rollback, if_pos (by simp [hopen, hforce])]

/-- Every action but closing makes a step. -/
theorem exists_step (answers : Answers) (session : Session) {action : Action}
    (h : action ≠ .close) : ∃ calls, Step session calls (action.perform answers session) := by
  cases action with
  | selectList config id parameter => exact exists_step_selectList config answers id parameter session
  | selectOne config id parameter => exact exists_step_selectOne config answers id parameter session
  | update config id parameter => exact exists_step_update config answers id parameter session
  | call config bound arguments => exact exists_step_call config answers bound arguments session
  | commit force => exact exists_step_commit answers force session
  | rollback force => exact exists_step_rollback answers force session
  | close => exact absurd rfl h

/-! ### Closing -/

/-- The rollback with which closing begins, where one is needed. -/
def closingRollbacks (answers : Answers) (session : Session) : List Sent :=
  if session.needsTransaction false then
    [{ call := .rollback, succeeded := answers.rollback.toBool }]
  else []

/-- Closing a session that is closed already makes no call. -/
theorem perform_close_of_closed (hclosed : session.executor.closed = true) :
    Action.close.perform answers session = { session with dirty := false } := by
  show { session with
    executor := ((Executor.close answers (session.needsTransaction false)).run session.executor).2
    dirty := false } = _
  rw [Executor.run_close_of_closed hclosed]

/-- Closing an open session rolls back, if that is needed, and closes the
transaction, whatever it answers. -/
theorem perform_close_of_open (answers : Answers) (hopen : session.executor.closed = false) :
    let session' := Action.close.perform answers session
    session'.executor.sent = session.executor.sent ++ closingRollbacks answers session ++
        [{ call := .close, succeeded := answers.close.toBool }] ∧
      session'.executor.closed = true ∧ session'.autocommit = session.autocommit := by
  obtain ⟨hclosed, hsent⟩ :=
    Executor.run_close_of_open answers hopen (session.needsTransaction false)
  exact ⟨hsent, hclosed, rfl⟩

/-! ## Histories -/

/-- What every step and every closing keep, every history keeps. -/
theorem after_keeps {P : Session → Prop}
    (hstep : ∀ {session calls session'}, Step session calls session' → P session → P session')
    (hclose : ∀ {session} answers, P session → P (Action.close.perform answers session))
    (history : List (Action × Answers)) (hsession : P session) : P (session.after history) := by
  induction history generalizing session with
  | nil => exact hsession
  | cons turn history ih =>
      obtain ⟨action, answers⟩ := turn
      refine ih ?_
      by_cases haction : action = .close
      · subst haction
        exact hclose answers hsession
      · obtain ⟨calls, h⟩ := exists_step answers session haction
        exact hstep h hsession

theorem after_append (earlier later : List (Action × Answers)) :
    session.after (earlier ++ later) = (session.after earlier).after later :=
  List.foldl_append

end SqlMapper.Session
