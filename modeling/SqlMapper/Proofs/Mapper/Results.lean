import SqlMapper.Proofs.Mapper.Serving
import SqlMapper.Proofs.Session.RowTyping
import SqlMapper.Proofs.Session.Sending

/-!
# The results of mapper methods

A method without result maps of its own gets its rows through a result map
that is made of the type that it declares to return. So what a call gives is
of that type: the session passes on what the rows stand for, and the call
refuses `null` where the type has no room for it. A method that changes rows
gives their number, in one of the few forms that a number has.

## Main definitions

* `Value.Conforms` — the value is one that a method of that return type gives.
* `Value.CountsRows` — the value is the number of rows in the declared form.

## Main results

* `Session.selectList_ok`, `Session.selectOne_ok`, `Session.update_ok` — what
  sessions answer with.
* `BoundMethod.call_conforms` — what a call gives.
* `MapperDeclaration.Owns.result_conforms` — what a registered method gives.
* `invoke_conforms` — the same through the known mapper.
-/

namespace SqlMapper

/-! ## Declared returns -/

/-- The value is one that a method of the return type gives: `null` without a
return type, a list for a list type, and otherwise a value of the type, or
`null` if the type has room for it. -/
def Value.Conforms (v : Value) : Option ValueType → Prop
  | none => v = .null
  | some (.list element) => v.HasType (.list element)
  | some type => if type.isPrimitive then v.HasType type else v.HasTypeOrNull type

/-- The value is the number of rows in the form that the return type asks
for. Other return types have no such form. -/
inductive Value.CountsRows (rows : Nat) : Option ValueType → Value → Prop where
  | none : CountsRows rows none .null
  | int {n : Int32} (hn : n.toInt = rows) : CountsRows rows (some .int) (.int n)
  | long {n : Int64} (hn : n.toInt = rows) : CountsRows rows (some .long) (.long n)
  | bool : CountsRows rows (some .bool) (.bool (0 < rows))

/-- A number of rows is a value of the return type. -/
theorem Value.CountsRows.conforms {rows : Nat} {returns : Option ValueType} {v : Value}
    (h : v.CountsRows rows returns) : v.Conforms returns := by
  cases h with
  | none => rfl
  | int => exact .int _
  | long => exact .long _
  | bool => exact .bool _

/-! ## Sessions -/

namespace Executor

variable {config : Configuration} {answers : Answers} {statement : Statement} {parameter : Value}
  {executor executor' : Executor}

/-- A call that succeeds gives the answer of the transaction. -/
theorem eq_answer_of_make_ok {α : Type} {call : Call} {answer : Except Fault α} {a : α}
    (h : (make call answer).run executor = (.ok a, executor')) : answer = .ok a :=
  (Prod.mk.inj h).1

/-- A query gives what the rows of the answer stand for. -/
theorem query_ok {values : List Value}
    (h : (query config answers statement parameter).run executor = (.ok values, executor')) :
    ∃ rows, answers.query = .ok rows ∧ config.results statement rows = .ok values := by
  obtain ⟨_, _, -, hprepare⟩ := exists_of_run_bind_ok h
  obtain ⟨sent, _, -, hmake⟩ := exists_of_run_bind_ok hprepare
  obtain ⟨rows, _, hrows, hnote⟩ := exists_of_run_bind_ok hmake
  obtain ⟨_, _, -, hresults⟩ := exists_of_run_bind_ok hnote
  exact ⟨rows, eq_answer_of_make_ok hrows, (Prod.mk.inj hresults).1⟩

/-- An update gives the number of rows that the transaction answers. -/
theorem update_ok {rows : Nat}
    (h : (update config answers statement parameter).run executor = (.ok rows, executor')) :
    answers.execute = .ok rows := by
  obtain ⟨_, _, -, hprepare⟩ := exists_of_run_bind_ok h
  obtain ⟨sent, _, -, hmake⟩ := exists_of_run_bind_ok hprepare
  obtain ⟨count, _, hcount, hnote⟩ := exists_of_run_bind_ok hmake
  obtain ⟨_, _, -, hpure⟩ := exists_of_run_bind_ok hnote
  cases hpure
  exact eq_answer_of_make_ok hcount

end Executor

namespace Session

variable {config : Configuration} {answers : Answers} {statement : Statement} {parameter : Value}
  {session session' : Session} {id : String}

/-- An operation of the executor succeeds in the session if it does there. -/
theorem run_of_onExecutor_ok {α : Type} {execution : Execution α} {a : α}
    (h : (onExecutor execution).run session = (.ok a, session')) :
    ∃ executor', execution.run session.executor = (.ok a, executor') := by
  rw [run_onExecutor] at h
  exact ⟨_, Prod.ext (Prod.mk.inj h).1 rfl⟩

/-- A list of rows is what the rows of the answer stand for. -/
theorem selectList_ok {values : List Value} (hfound : config.statements.get id = .ok statement)
    (h : (selectList config answers id parameter).run session = (.ok values, session')) :
    ∃ rows, answers.query = .ok rows ∧ config.results statement rows = .ok values := by
  unfold selectList at h
  rw [hfound, run_bind_of_ok (run_lift (Except.ok statement) session)] at h
  obtain ⟨executor', hquery⟩ := run_of_onExecutor_ok h
  exact Executor.query_ok hquery

/-- One row is `null` without rows, and else what the only row of the answer
stands for. -/
theorem selectOne_ok {value : Value} (hfound : config.statements.get id = .ok statement)
    (h : (selectOne config answers id parameter).run session = (.ok value, session')) :
    ∃ rows values, answers.query = .ok rows ∧ config.results statement rows = .ok values ∧
      (value = .null ∨ value ∈ values) := by
  unfold selectOne at h
  obtain ⟨values, _, hlist, hvalue⟩ := exists_of_run_bind_ok h
  obtain ⟨rows, hrows, hresults⟩ := selectList_ok hfound hlist
  refine ⟨rows, values, hrows, hresults, ?_⟩
  rcases values with _ | ⟨only, _ | ⟨second, more⟩⟩
  · cases hvalue
    exact .inl rfl
  · cases hvalue
    exact .inr List.mem_cons_self
  · cases hvalue

/-- An update gives the number of rows that the transaction answers. -/
theorem update_ok {rows : Nat} (hfound : config.statements.get id = .ok statement)
    (h : (update config answers id parameter).run session = (.ok rows, session')) :
    answers.execute = .ok rows := by
  unfold update at h
  rw [hfound, run_bind_of_ok (run_lift (Except.ok statement) session), setDirty,
    run_bind_of_ok (run_modify _ session)] at h
  obtain ⟨executor', hupdate⟩ := run_of_onExecutor_ok h
  exact Executor.update_ok hupdate

end Session

/-! ## Calls -/

namespace BoundMethod

variable {bound : BoundMethod} {config : Configuration} {answers : Answers}
  {arguments : List Value} {session session' : Session} {statement : Statement} {v : Value}

/-- A number of rows is never wrapped: where the declared form has no room for
it, there is no result. -/
theorem countResult_ok {rows : Nat} (h : bound.countResult rows = .ok v) :
    v.CountsRows rows bound.method.returns := by
  unfold countResult at h
  split at h
  · next hreturns =>
      rw [hreturns, ← Except.ok.inj h]
      exact .none
  · next hreturns =>
      split at h
      · next hfits =>
          have hlt : rows < 2 ^ 31 := by
            have hbound := (fitsInt_iff.mp hfits).2
            omega
          rw [hreturns, ← Except.ok.inj h]
          exact .int (Int32.toInt_ofNat_of_lt hlt)
      · cases h
  · next hreturns =>
      split at h
      · next hfits =>
          have hlt : rows < 2 ^ 63 := by
            have hbound := (fitsLong_iff.mp hfits).2
            omega
          rw [hreturns, ← Except.ok.inj h]
          exact .long (Int64.toInt_ofNat_of_lt hlt)
      · cases h
  · next hreturns =>
      rw [hreturns, ← Except.ok.inj h]
      exact .bool
  · cases h

/-- One value is refused if it is `null` and the type has no room for it. -/
theorem rowResult_ok {value : Value} {type : ValueType} (hreturns : bound.method.returns = some type)
    (hlist : ∀ element, type ≠ .list element) (hvalue : value.HasTypeOrNull type)
    (h : bound.rowResult value = .ok v) : v.Conforms bound.method.returns := by
  unfold rowResult at h
  rw [hreturns] at h ⊢
  dsimp only at h
  split at h
  · cases h
  · next hroom =>
      obtain rfl := Except.ok.inj h
      have hconforms : value.Conforms (some type) =
          if type.isPrimitive then value.HasType type else value.HasTypeOrNull type := by
        cases type with
        | list element => exact absurd rfl (hlist element)
        | _ => rfl
      rw [hconforms]
      split
      · next hprimitive =>
          rcases hvalue with rfl | htype
          · rw [hprimitive] at hroom
            exact absurd rfl hroom
          · exact htype
      · exact hvalue

/-- A call of a method whose rows stand for `null` or for values of the element
type of its return type gives a value of its return type. A call that does not
select gives the number of rows that the transaction answers. -/
theorem call_conforms (hfound : config.statements.get bound.statementId = .ok statement)
    (hresults : ∀ type rows values, bound.kind = .select → bound.method.returns = some type →
      config.results statement rows = .ok values →
      ∀ value ∈ values, value.HasTypeOrNull type.element)
    (h : (bound.call config answers arguments).run session = (.ok v, session')) :
    v.Conforms bound.method.returns ∧ (bound.kind.isSelect = false →
      ∃ rows, answers.execute = .ok rows ∧ v.CountsRows rows bound.method.returns) := by
  unfold call at h
  obtain ⟨parameter, _, -, hcall⟩ := exists_of_run_bind_ok h
  cases hkind : bound.kind with
  | unknown =>
      rw [hkind] at hcall
      cases hcall
  | insert | update | delete =>
      rw [hkind] at hcall
      obtain ⟨rows, _, hupdate, hcount⟩ := exists_of_run_bind_ok hcall
      have hcounts := countResult_ok (Prod.mk.inj hcount).1
      exact ⟨hcounts.conforms, fun _ => ⟨rows, Session.update_ok hfound hupdate, hcounts⟩⟩
  | select =>
      rw [hkind] at hcall
      refine ⟨?_, fun hselect => by cases hselect⟩
      dsimp only at hcall
      split at hcall
      · next hreturns =>
          obtain ⟨values, _, -, hpure⟩ := exists_of_run_bind_ok hcall
          cases hpure
          rw [hreturns]
          rfl
      · next element hreturns =>
          obtain ⟨values, _, hlist, hpure⟩ := exists_of_run_bind_ok hcall
          cases hpure
          obtain ⟨rows, -, hrows⟩ := Session.selectList_ok hfound hlist
          rw [hreturns]
          refine .list fun item hmem hnull => ?_
          exact (hresults _ rows values hkind hreturns hrows item hmem).resolve_left hnull
      · next type hlist hreturns =>
          obtain ⟨value, _, hone, hrow⟩ := exists_of_run_bind_ok hcall
          obtain ⟨rows, values, -, hrows, hvalue⟩ := Session.selectOne_ok hfound hone
          have helement : type.element = type := by
            cases type with
            | list element => exact absurd rfl (hlist element)
            | _ => rfl
          refine rowResult_ok hreturns hlist ?_ (Prod.mk.inj hrow).1
          rcases hvalue with rfl | hmem
          · exact .inl rfl
          · have htype := hresults type rows values hkind hreturns hrows value hmem
            rwa [helement] at htype

end BoundMethod

/-! ## Registered methods -/

namespace MapperDeclaration

variable {mapper : MapperDeclaration} {method : MethodDeclaration} {sql : MethodSql}
  {before config : Configuration} {statement : Statement} {bound : BoundMethod}
  {answers : Answers} {arguments : List Value} {session session' : Session} {v : Value}

/-- The statement of a method that names no result map has one for the element
type of what the method returns, if it selects. -/
theorem Built.resultMaps_of_select {type : ValueType}
    (h : mapper.Built method sql before statement) (hnone : method.resultMap = none)
    (hselect : sql.kind = .select) (hreturns : method.returns = some type) :
    statement.resultMaps =
      [{ id := Assistant.inlineId (mapper.statementId method.name)
         type := type.element
         mappings := [] }] := by
  obtain ⟨assistant, resultMaps, hmaps⟩ := h.resultMaps
  rw [hnone, hreturns, hselect] at hmaps
  exact (Except.ok.inj hmaps).symm

/-- What a method gives that is bound to a statement of its SQL and names no
result map, with the built-in handlers. -/
theorem Built.call_conforms (h : mapper.Built method sql before statement)
    (hfound : config.statements.get (mapper.statementId method.name) = .ok statement)
    (hnone : method.resultMap = none) (hhandlers : config.types.handlers = .initial)
    (hcall : ((mapper.boundTo method statement).call config answers arguments).run session =
      (.ok v, session')) :
    v.Conforms method.returns ∧ (sql.kind.isSelect = false →
      ∃ rows, answers.execute = .ok rows ∧ v.CountsRows rows method.returns) := by
  have hkind : (mapper.boundTo method statement).kind = sql.kind := h.kind
  rw [← hkind]
  refine BoundMethod.call_conforms hfound ?_ hcall
  intro type rows values hselect hreturns hrows
  have hmaps := h.resultMaps_of_select hnone (hkind.symm.trans hselect) hreturns
  exact Configuration.results_hasType hhandlers hmaps rfl hrows

/-- What a registered method gives. The mapper owns the statement of the
method, which names no result map, and the built-in handlers are in use when it
is called. Any history may lie between the registration, the binding and the
call, and the transaction may answer anything. A result conforms to the return
type of the method. If the method does not select, it is the number of rows
that the transaction answers. -/
theorem Owns.result_conforms {earlier later : List Configuration.Change}
    (howns : mapper.Owns method sql before) (hnone : method.resultMap = none)
    (hbound : mapper.bindMethod ((mapper.register.run before).2.after earlier).statements
      method.name = .ok bound)
    (hconfig : config = ((mapper.register.run before).2.after earlier).after later)
    (hhandlers : config.types.handlers = .initial)
    (hcall : (bound.call config answers arguments).run session = (.ok v, session')) :
    v.Conforms method.returns ∧ (sql.kind.isSelect = false →
      ∃ rows, answers.execute = .ok rows ∧ v.CountsRows rows method.returns) := by
  obtain ⟨statement, hregistered, hbuilt⟩ := howns.provides
  have hbinding := Configuration.stable_provides.after earlier hregistered
  obtain rfl : mapper.boundTo method statement = bound :=
    Except.ok.inj (hbinding.bindMethod.symm.trans hbound)
  have hcalled := Configuration.stable_provides.after later hbinding
  rw [← hconfig] at hcalled
  exact hbuilt.call_conforms hcalled.found hnone hhandlers hcall

end MapperDeclaration

/-- A list of ages, one of which is absent, and the number of deleted persons. -/
theorem result_conforms_persons :
    let ages : MethodDeclaration := {
      name := "ages"
      sql := some { kind := .select, text := "select age from person" }
      returns := some (.list .int) }
    let clear : MethodDeclaration := {
      name := "clear"
      sql := some { kind := .delete, text := "delete from person" }
      returns := some .long }
    let mapper : MapperDeclaration :=
      { typeName := "Persons", namespaceName := "ns", methods := [ages, clear] }
    let answers : Answers :=
      { query := .ok [[("age", .long 36)], [("age", .null)]], execute := .ok 2 }
    let config := (mapper.register.run {}).2
    let call : String → Operation Value := fun name => do
      let bound ← (mapper.bindMethod config.statements name : Except Fault BoundMethod)
      bound.call config answers []
    (mapper.register.run {}).1 = .ok () ∧
      (∃ v, ((call "ages").run {}).1 = .ok v ∧ v.Conforms (some (.list .int))) ∧
      (∃ v, ((call "clear").run {}).1 = .ok v ∧ v.CountsRows 2 (some .long)) := by
  intro ages clear mapper answers config call
  obtain ⟨_, hregister⟩ : ∃ done, (mapper.register.run {}).1 = .ok done :=
    exists_ok_of_toBool (by decide +kernel)
  have hhandlers : config.types.handlers = .initial :=
    congrArg TypeSystem.handlers
      (Configuration.keeps_register_environment {} {} mapper {} ⟨rfl, rfl⟩).2
  have howns (method : MethodDeclaration) {sql : MethodSql} (hmethod : method ∈ mapper.methods)
      (hsql : method.recognizedSql? = some sql)
      (hname : ¬ (mapper.namespaceName ++ ".").toList <+: method.name.toList) :
      mapper.Owns method sql {} :=
    .of_register_ok (Prod.ext hregister rfl) rfl hmethod hsql
      fun id hid => Assistant.elementId_of_short rfl hname hid
  -- A call that succeeds has bound the method first.
  have hcalls {name : String} {v : Value} (h : ((call name).run {}).1 = .ok v) :
      ∃ bound session, mapper.bindMethod (config.after []).statements name = .ok bound ∧
        (bound.call config answers []).run {} = (.ok v, session) := by
    obtain ⟨bound, hbind, hcall⟩ := exists_of_run_bind_ok_of_keeps (fun _ => keeps_lift _)
      (Prod.ext h rfl : (call name).run {} = (.ok v, _))
    exact ⟨bound, _, (Prod.mk.inj hbind).1, hcall⟩
  obtain ⟨v, hages⟩ : ∃ v, ((call "ages").run {}).1 = .ok v :=
    exists_ok_of_toBool (by decide +kernel)
  obtain ⟨w, hclear⟩ : ∃ w, ((call "clear").run {}).1 = .ok w :=
    exists_ok_of_toBool (by decide +kernel)
  obtain ⟨_, _, hbindAges, hcallAges⟩ := hcalls hages
  obtain ⟨_, _, hbindClear, hcallClear⟩ := hcalls hclear
  have hsame : config = (config.after []).after [] := rfl
  have hlist := MapperDeclaration.Owns.result_conforms (howns ages (by decide) rfl (by decide)) rfl
    hbindAges hsame hhandlers hcallAges
  have hcount := MapperDeclaration.Owns.result_conforms (howns clear (by decide) rfl (by decide)) rfl
    hbindClear hsame hhandlers hcallClear
  obtain ⟨rows, hrows, hcounts⟩ := hcount.2 rfl
  obtain rfl := Except.ok.inj hrows
  exact ⟨hregister, ⟨v, hages, hlist.1⟩, w, hclear, hcounts⟩

/-- The same through the known mapper, which binds the method when it is first
called and keeps it bound. No other mapper is known by the name of its type. -/
theorem invoke_conforms {before : Configuration} {mapper : MapperDeclaration}
    {method : MethodDeclaration} {sql : MethodSql} {changes : List Configuration.Change}
    {config : Configuration} {session : Session} {answers : Answers} {arguments : List Value}
    {v : Value} (howns : mapper.Owns method sql before) (hnone : method.resultMap = none)
    (hconfig : config = (mapper.register.run before).2.after changes)
    (hdeclared : ∀ known, config.mappers.find? mapper.typeName = some known →
      known.declaration = mapper)
    (hhandlers : config.types.handlers = .initial)
    (h : (invoke config session answers mapper.typeName method.name arguments).1 = .ok v) :
    v.Conforms method.returns ∧ (sql.kind.isSelect = false →
      ∃ rows, answers.execute = .ok rows ∧ v.CountsRows rows method.returns) := by
  obtain ⟨statement, hregistered, hbuilt⟩ := howns.provides
  have hprovides := Configuration.stable_provides.after changes hregistered
  rw [← hconfig] at hprovides
  -- The mapper is known, or there would be no method to call.
  have hserves : config.Serves mapper method statement := {
    hprovides with
    known := by
      rcases hfind : config.mappers.find? mapper.typeName with _ | known
      · rw [invoke, Configuration.boundMethod, run_bind_of_ok (run_get config),
          Configuration.mapper, hfind] at h
        cases h
      · exact ⟨known, hfind, hdeclared known hfind⟩ }
  obtain ⟨called, hbound, hstill⟩ := hserves.run_boundMethod
  -- Binding the method leaves the handlers alone.
  have htypes := Configuration.keeps_boundMethod
    (P := fun config => config.types.handlers = .initial) (fun _ _ _ _ _ htypes _ _ _ => htypes)
    mapper.typeName method.name config hhandlers
  rw [hbound] at htypes
  have hcall : (((mapper.boundTo method statement).call called answers arguments).run session).1 =
      .ok v := by
    rwa [invoke, hbound] at h
  exact hbuilt.call_conforms hstill.found hnone htypes (Prod.ext hcall rfl)

end SqlMapper
