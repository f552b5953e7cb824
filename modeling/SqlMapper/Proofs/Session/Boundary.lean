import SqlMapper.Proofs.Handler.BuiltIn
import SqlMapper.Proofs.Session.History
import SqlMapper.Proofs.Template.Compilation

/-!
# What crosses into the transaction

A statement sends one value for each of its mappings, and its mappings are
those of its placeholders. So the numbers agree whatever the parameter is, and
the values of a statement are known one by one. Where a mapping has no value
nothing is sent at all.

A statement may have been compiled under other types and handlers than those
it runs under: the mappings keep the handlers of the one time, and the
parameter is looked at by those of the other.

## Main definitions

* `Sends` — what the placeholder of a mapping sends for a parameter.
* `Session.Action.Runs` — the actions that run one statement.

## Main results

* `Sends.unique` — a placeholder sends one value.
* `CompiledSql.bind_eq_ok_iff` — binding gives what each mapping sends.
* `Session.Action.Runs.sends_once` — a statement makes one call with as many
  values as it has placeholders, or none.
-/

namespace SqlMapper

/-! ## The value of a placeholder -/

/-- What the placeholder of a mapping sends for a parameter. -/
inductive Sends (types : TypeSystem) (parameter : Value) (mapping : ParameterMapping) :
    Value → Prop where
  /-- A placeholder that is only written back. -/
  | output (hmode : mapping.mode = .output) : Sends types parameter mapping .null
  /-- The parameter is absent. -/
  | absent {sent : Value} (hmode : mapping.mode ≠ .output) (hnull : parameter = .null)
      (hsent : mapping.handler.toWire .null mapping.wire = .ok sent) :
      Sends types parameter mapping sent
  /-- The runtime type of the parameter has a handler. -/
  | whole {sent : Value} (hmode : mapping.mode ≠ .output) (hnull : parameter ≠ .null)
      (hhandler : types.handlers.has types.family parameter.type none = true)
      (hsent : mapping.handler.toWire parameter mapping.wire = .ok sent) :
      Sends types parameter mapping sent
  /-- The parameter is taken apart. -/
  | read {value sent : Value} (hmode : mapping.mode ≠ .output) (hnull : parameter ≠ .null)
      (hhandler : types.handlers.has types.family parameter.type none = false)
      (hread : parameter.readPath types.family.describe mapping.property = .ok value)
      (hsent : mapping.handler.toWire value mapping.wire = .ok sent) :
      Sends types parameter mapping sent

variable {types : TypeSystem} {parameter sent : Value} {mapping : ParameterMapping}

theorem mappedValue_of_whole (hnull : parameter ≠ .null)
    (hhandler : types.handlers.has types.family parameter.type none = true) :
    mappedValue types parameter mapping = .ok parameter := by
  have hisNull : ¬ parameter.isNull = true := fun h => hnull (Value.isNull_iff.mp h)
  rw [mappedValue, if_neg hisNull, if_pos]
  simp [sentWhole, hisNull, hhandler]

theorem mappedValue_of_read (hnull : parameter ≠ .null)
    (hhandler : types.handlers.has types.family parameter.type none = false) :
    mappedValue types parameter mapping =
      parameter.readPath types.family.describe mapping.property := by
  have hisNull : ¬ parameter.isNull = true := fun h => hnull (Value.isNull_iff.mp h)
  rw [mappedValue, if_neg hisNull, if_neg]
  simp [sentWhole, hhandler]

theorem boundValue_eq_ok_iff :
    boundValue types parameter mapping = .ok sent ↔ Sends types parameter mapping sent := by
  constructor
  · intro h
    by_cases hmode : mapping.mode = .output
    · rw [boundValue, if_pos hmode] at h
      exact Except.ok.inj h ▸ .output hmode
    rw [boundValue, if_neg hmode] at h
    obtain ⟨value, hvalue, hsent⟩ := exists_of_bind_ok h
    by_cases hnull : parameter = .null
    · subst hnull
      obtain rfl := Except.ok.inj hvalue
      exact .absent hmode rfl hsent
    cases hhandler : types.handlers.has types.family parameter.type none with
    | true =>
        rw [mappedValue_of_whole hnull hhandler] at hvalue
        obtain rfl := Except.ok.inj hvalue
        exact .whole hmode hnull hhandler hsent
    | false =>
        rw [mappedValue_of_read hnull hhandler] at hvalue
        exact .read hmode hnull hhandler hvalue hsent
  · intro h
    cases h with
    | output hmode => rw [boundValue, if_pos hmode]
    | absent hmode hnull hsent =>
        rw [boundValue, if_neg hmode, hnull]
        exact hsent
    | whole hmode hnull hhandler hsent =>
        rw [boundValue, if_neg hmode, mappedValue_of_whole hnull hhandler]
        exact hsent
    | read hmode hnull hhandler hread hsent =>
        rw [boundValue, if_neg hmode, mappedValue_of_read hnull hhandler, hread]
        exact hsent

/-- A placeholder sends one value. -/
theorem Sends.unique {sent' : Value} (h : Sends types parameter mapping sent)
    (h' : Sends types parameter mapping sent') : sent = sent' := by
  have hbound := boundValue_eq_ok_iff.mpr h
  rw [boundValue_eq_ok_iff.mpr h'] at hbound
  exact (Except.ok.inj hbound).symm

/-- Binding gives for every mapping what its placeholder sends, in order. -/
theorem CompiledSql.bind_eq_ok_iff {sql : CompiledSql} {values : List Value} :
    sql.bind types parameter = .ok values ↔
      List.Forall₂ (Sends types parameter) sql.mappings values := by
  rw [bind, mapM_eq_ok_iff]
  simp only [boundValue_eq_ok_iff]

/-- Binding fails only at a mapping that has no value. -/
theorem CompiledSql.exists_of_bind_error {sql : CompiledSql} {fault : Fault}
    (h : sql.bind types parameter = .error fault) :
    ∃ mapping ∈ sql.mappings, ∀ value, ¬ Sends types parameter mapping value := by
  obtain ⟨mapping, hmem, hfault⟩ := exists_of_mapM_error h
  refine ⟨mapping, hmem, fun value hsends => ?_⟩
  rw [boundValue_eq_ok_iff.mpr hsends] at hfault
  cases hfault

/-- A built-in handler sends scalars only. -/
theorem Sends.isScalar (h : Sends types parameter mapping sent)
    (hbuiltIn : mapping.handler.IsBuiltIn) : sent.isScalar = true := by
  cases h with
  | output => rfl
  | absent _ _ hsent | whole _ _ _ hsent | read _ _ _ _ hsent =>
      exact hbuiltIn.isScalar_of_toWire hsent

/-- Without supplied handlers, the mappings of compiled SQL have built-in ones. -/
theorem TypeSystem.isBuiltIn_of_compile {settings : Settings} {template : String}
    {parameterType : Option ValueType} {compiled : CompiledSql}
    (hcompiled : types.compile settings template parameterType = .ok compiled)
    (hbuiltIn : types.handlers.All Handler.IsBuiltIn) :
    ∀ mapping ∈ compiled.mappings, mapping.handler.IsBuiltIn := by
  intro mapping hmem
  have hmade := List.mem_map_of_mem (f := Except.ok (ε := Fault)) hmem
  rw [← mappings_of_compile hcompiled] at hmade
  obtain ⟨content, -, hmapping⟩ := List.mem_map.mp hmade
  exact handler_of_mappingOf hbuiltIn Handler.isBuiltIn_unknown hmapping

/-! ## Sessions -/

namespace Session

variable {session : Session} {config : Configuration} {id : String} {call : String → List Value → Call}
  {action : Action} {statement : Statement}

/-- The action runs the statement of the id for the parameter, by calls of the
given form. -/
inductive Action.Runs (config : Configuration) (id : String) (parameter : Value) :
    Action → (String → List Value → Call) → Prop where
  | selectList : Runs config id parameter (.selectList config id parameter) .query
  | selectOne : Runs config id parameter (.selectOne config id parameter) .query
  | update : Runs config id parameter (.update config id parameter) .execute

namespace Action.Runs

/-- A statement whose values can be bound is sent with them. -/
theorem sent_of_bound (hruns : Runs config id parameter action call)
    (hfound : config.statements.get id = .ok statement) (hopen : session.executor.closed = false)
    {values : List Value} (hbind : statement.sql.bind config.types parameter = .ok values)
    (answers : Answers) :
    ∃ succeeded, (action.perform answers session).executor.sent =
      session.executor.sent ++ [{ call := call statement.sql.sql values, succeeded }] := by
  cases hruns with
  | selectList => exact ⟨_, run_selectList_sent hfound hopen hbind⟩
  | selectOne => exact ⟨_, run_selectOne_sent hfound hopen hbind⟩
  | update => exact ⟨_, run_update_sent hfound hopen hbind⟩

/-- A statement whose values cannot be bound does not reach the executor's
transaction. -/
theorem executor_of_unbound (hruns : Runs config id parameter action call)
    (hfound : config.statements.get id = .ok statement) (hopen : session.executor.closed = false)
    {fault : Fault} (hbind : statement.sql.bind config.types parameter = .error fault)
    (answers : Answers) :
    (action.perform answers session).executor = session.executor := by
  have hlist : (Session.selectList config answers id parameter).run session =
      (.error fault, session) := by
    rw [Session.selectList, hfound, run_bind_of_ok (run_lift (Except.ok statement) session),
      run_onExecutor, Executor.query_eq_send, Executor.run_send_of_unbound hopen hbind]
  cases hruns with
  | selectList =>
      show ((Session.selectList config answers id parameter).run session).2.executor = _
      rw [hlist]
  | selectOne =>
      show ((Session.selectOne config answers id parameter).run session).2.executor = _
      rw [Session.selectOne, run_bind_of_error hlist]
  | update =>
      show ((Session.update config answers id parameter).run session).2.executor = _
      rw [Session.update, hfound, run_bind_of_ok (run_lift (Except.ok statement) session), setDirty,
        run_bind_of_ok (run_modify _ session), run_onExecutor, Executor.update_eq_send,
        Executor.run_send_of_unbound hopen hbind]

/-- Let a statement be compiled from a template, and let an open session run it
for any parameter. Every reference of the template has a mapping and a
placeholder of the compiled SQL. Either one call is made, with that SQL and one
value for each mapping, which is what the mapping sends; or some mapping has no
value, and no call is made. If no handler was supplied when the statement was
compiled, every value is a scalar. -/
theorem sends_once (hruns : Runs config id parameter action call)
    (hfound : config.statements.get id = .ok statement) {settings : Settings} {template : String}
    {parameterType : Option ValueType}
    (hcompiled : types.compile settings template parameterType = .ok statement.sql)
    (hopen : session.executor.closed = false) (answers : Answers) :
    let scanned := settings.markers.scan template
    let sent' := (action.perform answers session).executor.sent
    statement.sql.sql = settings.layout
        (scanned.woven (settings.placeholders scanned.references.length)) ∧
      scanned.references.map (types.mappingOf · (parameterType.getD .any)) =
        statement.sql.mappings.map .ok ∧
      ((∃ values succeeded,
          sent' = session.executor.sent ++
            [{ call := call statement.sql.sql values, succeeded }] ∧
          values.length = scanned.references.length ∧
          List.Forall₂ (Sends config.types parameter) statement.sql.mappings values ∧
          (types.handlers.All Handler.IsBuiltIn → ∀ value ∈ values, value.isScalar = true)) ∨
        (∃ mapping ∈ statement.sql.mappings, ∀ value, ¬ Sends config.types parameter mapping value) ∧
          sent' = session.executor.sent) := by
  intro scanned sent'
  have hmappings := TypeSystem.mappings_of_compile hcompiled
  have hscan := TypeSystem.intact_of_compile hcompiled
  have hsql := Except.ok.inj
    ((TypeSystem.compile_of_mappings hscan hmappings).symm.trans hcompiled)
  refine ⟨congrArg CompiledSql.sql hsql.symm, hmappings, ?_⟩
  rcases hbind : statement.sql.bind config.types parameter with fault | values
  · right
    refine ⟨CompiledSql.exists_of_bind_error hbind, ?_⟩
    exact congrArg Executor.sent (hruns.executor_of_unbound hfound hopen hbind answers)
  · left
    have hsends := CompiledSql.bind_eq_ok_iff.mp hbind
    obtain ⟨succeeded, hsent⟩ := hruns.sent_of_bound hfound hopen hbind answers
    refine ⟨values, succeeded, hsent, ?_, hsends, fun hbuiltIn => ?_⟩
    · have hlength : scanned.references.length = statement.sql.mappings.length := by
        simpa using congrArg List.length hmappings
      rw [hlength, hsends.length_eq]
    · intro value hmem
      obtain ⟨mapping, hmapping, hsends⟩ := exists_of_mapM_ok hbind hmem
      exact (boundValue_eq_ok_iff.mp hsends).isScalar
        (types.isBuiltIn_of_compile hcompiled hbuiltIn mapping hmapping)

/-- The parameter of a procedure is a bag; the first placeholder is only written
back and has no entry in it. -/
theorem sends_once_output :
    let template := "call p(#\x7btotal, mode=OUT\x7d, #\x7bname\x7d)"
    let bag : Value := .params [("name", .string "x")]
    ∃ compiled values succeeded, ({} : TypeSystem).compile {} template none = .ok compiled ∧
      let statement : Statement := {
        id := "m.call", resource := "test", kind := .update
        sql := compiled, parameterType := none, resultMaps := [] }
      let config : Configuration := {
        statements := { name := "", slots := [("m.call", .entry statement)], ids := ["m.call"] } }
      ((Action.update config "m.call" bag).perform {} {}).executor.sent =
          [{ call := .execute compiled.sql values, succeeded }] ∧
        values.length = 2 ∧ ∀ value ∈ values, value.isScalar = true := by
  intro template bag
  obtain ⟨compiled, hcompiled⟩ : ∃ compiled,
      ({} : TypeSystem).compile {} template none = .ok compiled :=
    exists_ok_of_toBool (by decide +kernel)
  have hreferences : (({} : Settings).markers.scan template).references.length = 2 := by
    decide +kernel
  have hbinds : (({} : TypeSystem).compile {} template none >>= fun sql =>
      sql.bind {} bag).toBool = true := by decide +kernel
  obtain ⟨values, hbind⟩ := exists_ok_of_toBool hbinds
  rw [hcompiled] at hbind
  let statement : Statement := {
    id := "m.call", resource := "test", kind := .update
    sql := compiled, parameterType := none, resultMaps := [] }
  let config : Configuration := {
    statements := { name := "", slots := [("m.call", .entry statement)], ids := ["m.call"] } }
  have hfound : config.statements.get "m.call" = .ok statement := rfl
  have hruns : Runs config "m.call" bag (.update config "m.call" bag) .execute := .update
  have hopen : ({} : Session).executor.closed = false := rfl
  obtain ⟨-, -, ⟨values, succeeded, hsent, hlength, -, hscalar⟩ | ⟨⟨mapping, hmapping, hnone⟩, -⟩⟩ :=
    sends_once hruns hfound hcompiled hopen {}
  · exact ⟨compiled, values, succeeded, hcompiled, hsent, hlength.trans hreferences,
      hscalar HandlerRegistry.all_initial⟩
  · have hsends := CompiledSql.bind_eq_ok_iff.mp hbind
    obtain ⟨i, hi, rfl⟩ := List.getElem_of_mem hmapping
    exact absurd (hsends.get hi (hsends.length_eq ▸ hi)) (hnone _)

end Action.Runs

end Session

end SqlMapper
