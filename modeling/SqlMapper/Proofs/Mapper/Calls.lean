import SqlMapper.Proofs.Mapper.Bags
import SqlMapper.Proofs.Mapper.Serving
import SqlMapper.Proofs.Session.Sending
import SqlMapper.Proofs.Template.PlainTemplate

/-!
# Calls of mapper methods with several parameters

A method whose SQL refers to its parameters by plain names sends one call to
the transaction: the SQL with a placeholder in the place of every token, and
for every placeholder the argument that the name in its token denotes.

## Main definitions

* `MethodDeclaration.RefersByName` — SQL of literals and names of parameters.

## Main results

* `invoke_sends_once` — what a call of such a method sends.
* `invoke_without_statement` — known methods that send nothing.
-/

namespace SqlMapper

/-! ## Methods -/

/-- The method carries SQL of a recognized kind that consists of literals and
tokens. Its parameters, at least two, have different plain names, and every
token holds one of these names or that of a position. -/
structure MethodDeclaration.RefersByName (method : MethodDeclaration) (kind : StatementKind)
    (t : Template) : Prop where
  recognized : kind ≠ .unknown
  sql : method.sql = some { kind, text := t.text .default }
  literals : ∀ literal ∈ t.lead :: t.followers,
    ¬ Markers.default.opening <:+: literal ∧ '\\' ∉ literal
  several : 2 ≤ method.parameters.length
  plain : ∀ name ∈ method.parameterNames, IsPlainName name
  distinct : method.parameterNames.Nodup
  references : ∀ reference ∈ t.references, reference ∈ method.parameterNames ∨
    ∃ position, 1 ≤ position ∧ position ≤ method.parameters.length ∧
      reference = positionalName position

namespace MethodDeclaration

variable {method : MethodDeclaration} {kind : StatementKind} {t : Template}
  {arguments : List Value}

/-- A method with several parameters gets them as a bag. -/
theorem parameterType_of_several (h : 2 ≤ method.parameters.length) :
    method.parameterType = some .params := by
  unfold parameterType
  match hparameters : method.parameters, h with
  | _ :: _ :: _, _ => rfl

namespace RefersByName

theorem recognizedSql? (h : method.RefersByName kind t) :
    method.recognizedSql? = some { kind, text := t.text .default } := by
  unfold MethodDeclaration.recognizedSql?
  rw [h.sql]
  exact if_neg h.recognized

/-- Every token holds a plain name. -/
theorem isPlainName (h : method.RefersByName kind t) {reference : String}
    (hreference : reference ∈ t.references) : IsPlainName reference := by
  rcases h.references reference hreference with hname | ⟨position, -, -, rfl⟩
  · exact h.plain reference hname
  · exact isPlainName_positionalName position

/-- Every token denotes an argument. -/
theorem exists_denotes (h : method.RefersByName kind t)
    (hlength : arguments.length = method.parameters.length) {reference : String}
    (hreference : reference ∈ t.references) :
    ∃ value ∈ arguments, Denotes method.parameterNames arguments reference value := by
  by_cases hname : reference ∈ method.parameterNames
  · obtain ⟨i, hi, hget⟩ := List.getElem_of_mem hname
    have hlt : i < arguments.length := by
      rw [hlength, ← method.length_parameterNames]
      exact hi
    exact ⟨arguments[i], List.getElem_mem hlt,
      .effective (List.getElem?_eq_some_iff.mpr ⟨hi, hget⟩) (List.getElem?_eq_getElem hlt)⟩
  · obtain ⟨position, hpos, hle, rfl⟩ := (h.references reference hreference).resolve_left hname
    obtain ⟨i, rfl⟩ : ∃ i, position = i + 1 := ⟨position - 1, by omega⟩
    have hlt : i < arguments.length := by omega
    exact ⟨arguments[i], List.getElem_mem hlt, .positional hname (List.getElem?_eq_getElem hlt)⟩

/-- The tokens of the template denote arguments. -/
theorem exists_values (h : method.RefersByName kind t)
    (hlength : arguments.length = method.parameters.length) :
    ∃ values, List.Forall₂ (Denotes method.parameterNames arguments) t.references values ∧
      ∀ value ∈ values, value ∈ arguments := by
  suffices hall : ∀ references : List String, (∀ reference ∈ references, reference ∈ t.references) →
      ∃ values, List.Forall₂ (Denotes method.parameterNames arguments) references values ∧
        ∀ value ∈ values, value ∈ arguments from hall t.references fun _ hmem => hmem
  intro references hsubset
  induction references with
  | nil => exact ⟨[], .nil, by simp⟩
  | cons reference references ih =>
      obtain ⟨value, hvalue, hdenotes⟩ := h.exists_denotes hlength (hsubset reference (by simp))
      obtain ⟨values, hvalues, hmem⟩ := ih fun r hr => hsubset r (by simp [hr])
      exact ⟨value :: values, .cons hdenotes hvalues, by simpa using ⟨hvalue, hmem⟩⟩

end RefersByName

end MethodDeclaration

/-! ## Calls -/

/-- A call that is bound to a found statement and whose values can be bound
reaches the transaction once. -/
theorem BoundMethod.run_call_sent {bound : BoundMethod} {config : Configuration}
    {answers : Answers} {arguments values : List Value} {session : Session}
    {statement : Statement} {parameter : Value}
    (hparameter : bound.method.parameter arguments = .ok parameter)
    (hkind : bound.kind ≠ .unknown)
    (hfound : config.statements.get bound.statementId = .ok statement)
    (hopen : session.executor.closed = false)
    (hbind : statement.sql.bind config.types parameter = .ok values) :
    ((bound.call config answers arguments).run session).2.executor.sent =
      session.executor.sent ++ [answers.sentFor bound.kind statement.sql.sql values] := by
  unfold call
  rw [hparameter, run_bind_of_ok (run_lift (Except.ok parameter) session)]
  cases hk : bound.kind with
  | unknown => exact absurd hk hkind
  | insert | update | delete =>
      exact run_bind_of_keeps (P := fun s : Session => s.executor.sent = _)
        (Session.run_update_sent hfound hopen hbind) fun rows => keeps_lift _
  | select =>
      dsimp only
      split
      · exact run_bind_of_keeps (P := fun s : Session => s.executor.sent = _)
          (Session.run_selectList_sent hfound hopen hbind) fun rows => keeps_pure _
      · exact run_bind_of_keeps (P := fun s : Session => s.executor.sent = _)
          (Session.run_selectList_sent hfound hopen hbind) fun rows => keeps_pure _
      · exact run_bind_of_keeps (P := fun s : Session => s.executor.sent = _)
          (Session.run_selectOne_sent hfound hopen hbind) fun row => keeps_lift _

/-- What a registered method sends that refers to its parameters by name. Its
name must not begin with the namespace, and its mapper must have registered
the statements itself. Any history may lie between the registration and the
call: the call sends one call to the transaction, with the SQL of the method,
a placeholder in the place of every token, and for every placeholder the
argument that its token denotes. -/
theorem invoke_sends_once {before registered : Configuration} {mapper : MapperDeclaration}
    {method : MethodDeclaration} {kind : StatementKind} {t : Template}
    {arguments : List Value} {session : Session}
    (hregister : mapper.register.run before = (.ok (), registered))
    (hnew : before.isLoaded mapper.resource = false)
    (hmarkers : before.settings.markers = .default)
    (hshrink : before.settings.shrinkWhitespace = false)
    (hhandlers : before.types.handlers = .initial) (hmethod : method ∈ mapper.methods)
    (hname : ¬ (mapper.namespaceName ++ ".").toList <+: method.name.toList)
    (hrefers : method.RefersByName kind t)
    (hlength : arguments.length = method.parameters.length)
    (hscalars : ∀ argument ∈ arguments, argument.isScalar = true)
    (hopen : session.executor.closed = false) (changes : List Configuration.Change)
    (answers : Answers) :
    let sql := t.woven (before.settings.placeholders t.references.length)
    ∃ values, List.Forall₂ (Denotes method.parameterNames arguments) t.references values ∧
      (invoke (registered.after changes) session answers mapper.typeName method.name
          arguments).2.2.executor.sent =
        session.executor.sent ++ [answers.sentFor kind sql values] := by
  intro sql
  obtain ⟨statement, hserves, hkind, hcompiled⟩ :=
    MapperDeclaration.register_serves hregister hnew hmethod hrefers.recognizedSql? hname
  -- The statement is compiled for a bag, and its mappings read the bag by name.
  have hsql : statement.sql = { sql, mappings := t.references.map .ofArgument } := by
    rw [MethodDeclaration.parameterType_of_several hrefers.several,
      TypeSystem.compile_text hhandlers hmarkers hshrink hrefers.literals
        fun name hmem => hrefers.isPlainName hmem] at hcompiled
    exact (Except.ok.inj hcompiled).symm
  obtain ⟨config, hbound, hstill⟩ := (Configuration.stable_serves.after changes hserves).run_boundMethod
  obtain ⟨values, hdenotes, hvalues⟩ := hrefers.exists_values hlength
  have hnames : arguments.length = method.parameterNames.length :=
    hlength.trans method.length_parameterNames.symm
  have hparameter := MethodDeclaration.parameter_of_several hnames
    (hlength.symm ▸ hrefers.several)
  have hbind : statement.sql.bind config.types (.params (Bag.addArguments method.parameterNames 1
      (method.parameterNames.zip arguments) [])) = .ok values := by
    rw [hsql]
    refine CompiledSql.bind_of_plain (fun name hmem => hrefers.isPlainName hmem)
      (fun value hmem => hscalars value (hvalues value hmem)) ?_
    exact hdenotes.imp fun name value h => Bag.find?_of_denotes hrefers.distinct hnames h
  refine ⟨values, hdenotes, ?_⟩
  unfold invoke
  rw [hbound]
  show (((mapper.boundTo method statement).call config answers arguments).run
    session).2.executor.sent = _
  have hrecognized : (mapper.boundTo method statement).kind ≠ .unknown := hstill.recognized
  rw [BoundMethod.run_call_sent hparameter hrecognized hstill.found hopen hbind, hsql]
  show _ ++ [answers.sentFor statement.kind _ _] = _
  rw [hkind]

private theorem eq_ok_of_toBool {outcome : Except Fault Unit} (h : outcome.toBool = true) :
    outcome = .ok () := by
  cases outcome with
  | ok => rfl
  | error fault => cases h

/-- A declared name that looks like that of a position denotes its own
argument. -/
theorem invoke_declared_before_positional :
    let t : Template := {
      lead := "select ".toList
      tokens := [("param2".toList, [',']), ("arg1".toList, [',']), ("param3".toList, [])]
      intact := true }
    let method : MethodDeclaration := {
      name := "find"
      sql := some { kind := .select, text := t.text .default }
      parameters := [⟨some "param2", .any⟩, ⟨none, .any⟩, ⟨some "c", .any⟩] }
    let mapper : MapperDeclaration :=
      { typeName := "Mapper", namespaceName := "ns", methods := [method] }
    let before : Configuration := { settings := { placeholder := .dollar } }
    method.sql.map MethodSql.text = some "select #\x7bparam2\x7d,#\x7barg1\x7d,#\x7bparam3\x7d" ∧
      (mapper.register.run before).1 = .ok () ∧
      (invoke (mapper.register.run before).2 {} {} "Mapper" "find"
          [.bool true, .bool false, .null]).2.2.executor.sent =
        [{ call := .query "select $1,$2,$3" [.bool true, .bool false, .null], succeeded := true }] := by
  intro t method mapper before
  have hok : (mapper.register.run before).1 = .ok () :=
    eq_ok_of_toBool (by decide +kernel)
  have hrefers : method.RefersByName .select t := {
    recognized := by decide
    sql := rfl
    literals := by decide
    several := by decide
    plain := by decide
    distinct := by decide
    references := by
      intro reference hmem
      have hcases : reference = "param2" ∨ reference = "arg1" ∨ reference = "param3" := by
        simpa [t, Template.references, Template.contents] using hmem
      rcases hcases with rfl | rfl | rfl
      · exact .inl (by decide)
      · exact .inl (by decide)
      · exact .inr ⟨3, by decide, by decide, by decide⟩ }
  have hlist : t.references = ["param2", "arg1", "param3"] := by
    simp [t, Template.references, Template.contents]
  have hsends : ∃ values,
      List.Forall₂ (Denotes method.parameterNames [.bool true, .bool false, .null])
        t.references values ∧
      (invoke (mapper.register.run before).2 {} {} "Mapper" "find"
          [.bool true, .bool false, .null]).2.2.executor.sent =
        [{ call := .query "select $1,$2,$3" values, succeeded := true }] :=
    invoke_sends_once (Prod.ext hok rfl) rfl (by decide) rfl rfl (List.mem_singleton.mpr rfl)
      (by decide) hrefers rfl (by decide) rfl [] {}
  obtain ⟨values, hdenotes, hsent⟩ := hsends
  have hfound {name : String} {value : Value}
      (h : Denotes method.parameterNames [.bool true, .bool false, .null] name value) :=
    Bag.find?_of_denotes hrefers.distinct rfl h
  rw [hlist] at hdenotes
  rcases hdenotes with _ | ⟨h₁, _ | ⟨h₂, _ | ⟨h₃, ⟨⟩⟩⟩⟩
  obtain rfl := Option.some.inj (hfound h₁)
  obtain rfl := Option.some.inj (hfound h₂)
  obtain rfl := Option.some.inj (hfound h₃)
  exact ⟨by decide, hok, hsent⟩

/-- A known method without a statement under the id that its calls ask for
sends nothing. That is so if its name begins with the namespace, as it is then
registered under that name alone, and if the mapper counted as loaded before
it became known, as it then registers nothing. -/
theorem invoke_without_statement :
    let t : Template := {
      lead := "delete from t where a = ".toList
      tokens := [(['a'], " and b = ".toList), (['b'], [])]
      intact := true }
    let method : String → MethodDeclaration := fun name => {
      name
      sql := some { kind := .delete, text := t.text .default }
      parameters := [⟨some "a", .any⟩, ⟨some "b", .any⟩] }
    let mapper : String → MapperDeclaration := fun name =>
      { typeName := "Mapper", namespaceName := "ns", methods := [method name] }
    let registration : Configuration → String → Except Fault Unit × Configuration :=
      fun before name => (mapper name).register.run before
    let loaded : Configuration := { loaded := ["Mapper (mapper)"] }
    (∀ name, (method name).RefersByName .delete t) ∧
      (registration {} "ns.clear").1 = .ok () ∧
      (invoke (registration {} "ns.clear").2 {} {} "Mapper" "ns.clear"
        [.null, .null]).2.2.executor.sent = [] ∧
      (registration loaded "clear").1 = .ok () ∧
      (invoke (registration loaded "clear").2 {} {} "Mapper" "clear"
        [.null, .null]).2.2.executor.sent = [] := by
  intro t method mapper registration loaded
  have hnames (name : String) : (method name).parameterNames = ["a", "b"] := rfl
  have hrefers (name : String) : (method name).RefersByName .delete t := {
    recognized := by decide
    sql := rfl
    literals := by decide
    several := Nat.le_refl 2
    plain := by rw [hnames]; decide
    distinct := by rw [hnames]; decide
    references := by
      intro reference hmem
      rw [hnames]
      exact .inl (by simpa [t, Template.references, Template.contents] using hmem) }
  have hbehind : (invoke (registration {} "ns.clear").2 {} {} "Mapper" "ns.clear"
      [.null, .null]).2.2.executor.sent.isEmpty = true := by decide +kernel
  have hloaded : (invoke (registration loaded "clear").2 {} {} "Mapper" "clear"
      [.null, .null]).2.2.executor.sent.isEmpty = true := by decide +kernel
  exact ⟨hrefers, eq_ok_of_toBool (by decide +kernel), List.isEmpty_iff.mp hbehind,
    eq_ok_of_toBool (by decide +kernel), List.isEmpty_iff.mp hloaded⟩

end SqlMapper
