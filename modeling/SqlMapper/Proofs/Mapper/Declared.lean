import Mathlib.Data.List.Forall2
import SqlMapper.Proofs.Mapper.Binding
import SqlMapper.Proofs.Template.Compilation

/-!
# What a mapper adds to a configuration

A mapper that becomes known adds one statement for each of its methods with
SQL, in the order of the methods, and nothing else. The statement is found
under the id that calls of the method ask for, so the method can be bound to it
at once and at any later time. A method without SQL can be bound only to what
somebody else registers under that id.

## Main definitions

* `MethodParameter.Taken` — what the statement of a method gets in place of the
  parameters of the method.
* `MapperDeclaration.carried` — the methods with SQL.
* `MapperDeclaration.Declares` — the statement is what the mapper says of the
  method.

## Main results

* `MapperDeclaration.Declares.unique` — there is one such statement.
* `MapperDeclaration.exists_declared` — what the methods of a mapper register.
* `MapperDeclaration.register_binds` — what a mapper adds, and what its methods
  are bound to from then on.
-/

namespace SqlMapper

/-! ## Methods as declared -/

/-- The type of what a statement gets when its method has these parameters:
nothing if there are none, a value of the type of the only one, and the bag if
there are several. -/
inductive MethodParameter.Taken : List MethodParameter → Option ValueType → Prop where
  | none : Taken [] none
  | single (only : MethodParameter) : Taken [only] (some only.type)
  | bag (first second : MethodParameter) (others : List MethodParameter) :
      Taken (first :: second :: others) (some .params)

theorem MethodDeclaration.taken_parameterType (method : MethodDeclaration) :
    MethodParameter.Taken method.parameters method.parameterType := by
  unfold parameterType
  match method.parameters with
  | [] => exact .none
  | [only] => exact .single only
  | first :: second :: others => exact .bag first second others

theorem MethodParameter.Taken.unique {parameters : List MethodParameter}
    {type type' : Option ValueType} (h : Taken parameters type) (h' : Taken parameters type') :
    type = type' := by
  cases h with
  | none =>
      cases h' with
      | none => rfl
  | single =>
      cases h' with
      | single => rfl
  | bag =>
      cases h' with
      | bag => rfl

theorem MethodDeclaration.recognizedSql?_eq (method : MethodDeclaration) :
    method.recognizedSql? = method.sql.filter fun sql => sql.kind ≠ .unknown := by
  unfold recognizedSql?
  cases method.sql with
  | none => rfl
  | some sql => by_cases hkind : sql.kind = .unknown <;> simp [Option.filter, hkind]

theorem MethodDeclaration.recognizedSql?_eq_none_iff {method : MethodDeclaration} :
    method.recognizedSql? = none ↔ ∀ sql, method.sql = some sql → sql.kind = .unknown := by
  rw [recognizedSql?_eq, Option.filter_eq_none_iff]
  simp

namespace MapperDeclaration

/-! ## Declared statements -/

/-- The methods that carry SQL of a recognized kind, with that SQL. -/
def carried (methods : List MethodDeclaration) : List (MethodDeclaration × MethodSql) :=
  methods.filterMap fun method =>
    (method.sql.filter fun sql => sql.kind ≠ .unknown).map (method, ·)

theorem carried_eq (methods : List MethodDeclaration) :
    carried methods = methods.filterMap fun method => method.recognizedSql?.map (method, ·) := by
  simp only [carried, MethodDeclaration.recognizedSql?_eq]

/-- The full id of a result map that a method names. -/
def resultMapId (mapper : MapperDeclaration) (name : String) : String :=
  if '.' ∈ name.toList then name else mapper.namespaceName ++ "." ++ name

/-- The result maps of the statement of a method: those that the method names,
or else one for the element type of what a select returns, or else none. -/
inductive ResultMapsOf (mapper : MapperDeclaration) (registered : Catalogue ResultMap)
    (method : MethodDeclaration) (kind : StatementKind) : List ResultMap → Prop where
  | referenced {names : String} {resultMaps : List ResultMap}
      (hnames : method.resultMap = some names)
      (hfound : List.Forall₂ (fun name resultMap =>
        registered.get (mapper.resultMapId name) = .ok resultMap)
        (Assistant.namesIn names) resultMaps) :
      ResultMapsOf mapper registered method kind resultMaps
  | inline {type : ValueType} {resultMap : ResultMap} (hnames : method.resultMap = none)
      (hkind : kind = .select) (hreturns : method.returns = some type)
      (hinline : resultMap.IsInline (mapper.namespaceName ++ "." ++ method.name) type) :
      ResultMapsOf mapper registered method kind [resultMap]
  | none (hnames : method.resultMap = none)
      (hresult : kind ≠ .select ∨ method.returns = none) :
      ResultMapsOf mapper registered method kind []

/-- The statement is what the mapper says of the method, in a configuration
that has these settings, types and result maps. -/
structure Declares (mapper : MapperDeclaration) (config : Configuration)
    (method : MethodDeclaration) (sql : MethodSql) (statement : Statement) : Prop where
  id : statement.id = mapper.namespaceName ++ "." ++ method.name
  resource : statement.resource = mapper.resource
  kind : statement.kind = sql.kind
  parameterType : MethodParameter.Taken method.parameters statement.parameterType
  compiled : config.types.compile config.settings sql.text statement.parameterType =
    .ok statement.sql
  resultMaps : mapper.ResultMapsOf config.resultMaps method sql.kind statement.resultMaps

variable {mapper : MapperDeclaration} {method : MethodDeclaration} {sql : MethodSql}
  {before after : Configuration} {statement : Statement}

theorem ResultMapsOf.unique {registered : Catalogue ResultMap} {kind : StatementKind}
    {resultMaps resultMaps' : List ResultMap}
    (h : mapper.ResultMapsOf registered method kind resultMaps)
    (h' : mapper.ResultMapsOf registered method kind resultMaps') : resultMaps = resultMaps' := by
  cases h with
  | referenced hnames hfound =>
      cases h' with
      | referenced hnames' hfound' =>
          obtain rfl := Option.some.inj (hnames.symm.trans hnames')
          refine Relator.RightUnique.forall₂ ?_ hfound hfound'
          exact fun _ _ _ hget hget' => Except.ok.inj (hget.symm.trans hget')
      | inline hnames' => cases hnames.symm.trans hnames'
      | none hnames' => cases hnames.symm.trans hnames'
  | inline hnames hkind hreturns hinline =>
      cases h' with
      | referenced hnames' => cases hnames.symm.trans hnames'
      | inline _ _ hreturns' hinline' =>
          obtain rfl := Option.some.inj (hreturns.symm.trans hreturns')
          rw [hinline.unique hinline']
      | none _ hresult' => exact absurd hresult' (by simp [hkind, hreturns])
  | none hnames hresult =>
      cases h' with
      | referenced hnames' => cases hnames.symm.trans hnames'
      | inline _ hkind' hreturns' => exact absurd hresult (by simp [hkind', hreturns'])
      | none => rfl

/-- What a mapper says of a method determines the statement. -/
theorem Declares.unique {statement' : Statement}
    (h : mapper.Declares before method sql statement)
    (h' : mapper.Declares before method sql statement') : statement = statement' := by
  obtain ⟨id, resource, kind, sql, parameterType, resultMaps⟩ := statement
  obtain ⟨id', resource', kind', sql', parameterType', resultMaps'⟩ := statement'
  obtain rfl : id = id' := h.id.trans h'.id.symm
  obtain rfl : resource = resource' := h.resource.trans h'.resource.symm
  obtain rfl : kind = kind' := h.kind.trans h'.kind.symm
  obtain rfl : parameterType = parameterType' := h.parameterType.unique h'.parameterType
  obtain rfl : sql = sql' := Except.ok.inj (h.compiled.symm.trans h'.compiled)
  obtain rfl : resultMaps = resultMaps' := h.resultMaps.unique h'.resultMaps
  rfl

/-! ### Result maps -/

theorem referenceId_assistant (mapper : MapperDeclaration) (name : String) :
    mapper.assistant.referenceId name = .ok (mapper.resultMapId name) := by
  show (if Assistant.hasDot name then Except.ok name
    else Except.ok (mapper.namespaceName ++ "." ++ name)) = _
  simp only [Assistant.hasDot, List.contains_iff_mem, resultMapId]
  split <;> rfl

theorem referencedResultMap_ok {registered : Catalogue ResultMap} {statementId name : String}
    {resultMap : ResultMap}
    (h : mapper.assistant.referencedResultMap registered statementId name = .ok resultMap) :
    registered.get (mapper.resultMapId name) = .ok resultMap := by
  obtain ⟨id, hid, hget⟩ := Assistant.referencedResultMap_ok h
  obtain rfl := Except.ok.inj ((referenceId_assistant mapper name).symm.trans hid)
  exact hget

theorem resultMapsOf_ok {registered : Catalogue ResultMap} {kind : StatementKind}
    {resultMaps : List ResultMap}
    (h : mapper.assistant.resultMapsOf registered (mapper.statementId method.name) kind
      method.resultMap (if kind.isSelect then method.returns else none) = .ok resultMaps) :
    mapper.ResultMapsOf registered method kind resultMaps := by
  unfold Assistant.resultMapsOf at h
  cases hnames : method.resultMap with
  | some names =>
      rw [hnames] at h
      refine .referenced hnames ((mapM_eq_ok_iff.mp h).imp fun name resultMap hfound => ?_)
      exact referencedResultMap_ok hfound
  | none =>
      rw [hnames] at h
      by_cases hkind : kind = .select
      · subst hkind
        cases hreturns : method.returns with
        | none =>
            rw [hreturns] at h
            exact Except.ok.inj h ▸ .none hnames (.inr hreturns)
        | some type =>
            rw [hreturns] at h
            exact Except.ok.inj h ▸ .inline hnames rfl hreturns (.of_element _ type)
      · have hselect : ¬ kind.isSelect = true := by simpa [StatementKind.isSelect] using hkind
        rw [if_neg hselect] at h
        exact Except.ok.inj h ▸ .none hnames (.inl hkind)

/-! ### Methods -/

/-- A name without a dot does not begin with a namespace. -/
theorem not_prefix_of_short {namespaceName name : String} (hname : '.' ∉ name.toList) :
    ¬ (namespaceName ++ ".").toList <+: name.toList := by
  intro hbegins
  exact hname (hbegins.subset (by rw [String.toList_append]; simp))

/-- A method with SQL registers its statement and does nothing else. -/
theorem registerMethod_declares (hsql : method.recognizedSql? = some sql)
    (hname : '.' ∉ method.name.toList)
    (h : (registerMethod mapper.assistant method).run before = (.ok (), after)) :
    ∃ statement statements, mapper.Declares before method sql statement ∧
      before.statements.insert statement.id statement = .ok statements ∧
      after = { before with statements } := by
  obtain ⟨id, compiled, resultMaps, statements, helement, hcompiled, hmaps, hinsert, rfl⟩ :=
    registerMethod_ok hsql h
  obtain rfl : id = mapper.statementId method.name :=
    Assistant.elementId_of_short rfl (not_prefix_of_short hname) helement
  let statement : Statement := {
    id := mapper.statementId method.name, resource := mapper.resource, kind := sql.kind
    sql := compiled, parameterType := method.parameterType, resultMaps }
  have hstatement : mapper.Declares before method sql statement := {
    id := rfl
    resource := rfl
    kind := rfl
    parameterType := method.taken_parameterType
    compiled := hcompiled
    resultMaps := resultMapsOf_ok hmaps }
  exact ⟨statement, statements, hstatement, hinsert, rfl⟩

/-- The methods of a mapper register one statement for each that carries SQL, in
their order, and do nothing else. -/
theorem exists_declared {methods : List MethodDeclaration}
    (hnames : ∀ method ∈ methods, '.' ∉ method.name.toList)
    (h : (methods.forM (registerMethod mapper.assistant)).run before = (.ok (), after)) :
    ∃ statements,
      List.Forall₂ (fun entry => mapper.Declares before entry.1 entry.2) (carried methods)
        statements ∧
      before.statements.Extends (Catalogue.entriesOf Statement.id statements) after.statements ∧
      after = { before with statements := after.statements } := by
  induction methods generalizing before with
  | nil =>
      cases h
      exact ⟨[], .nil, .refl, rfl⟩
  | cons method methods ih =>
      obtain ⟨hname, hnames⟩ := List.forall_mem_cons.mp hnames
      obtain ⟨_, between, hfirst, hrest⟩ :=
        exists_of_run_bind_ok (x := registerMethod mapper.assistant method) h
      obtain ⟨statements, hdeclared, hextends, hafter⟩ := ih hnames hrest
      cases hsql : method.recognizedSql? with
      | none =>
          have hcarried : carried (method :: methods) = carried methods := by
            simp [carried_eq, hsql]
          unfold registerMethod at hfirst
          rw [hsql] at hfirst
          cases hfirst
          rw [hcarried]
          exact ⟨statements, hdeclared, hextends, hafter⟩
      | some sql =>
          have hcarried : carried (method :: methods) = (method, sql) :: carried methods := by
            simp [carried_eq, hsql]
          obtain ⟨statement, added, hstatement, hinsert, rfl⟩ :=
            registerMethod_declares hsql hname hfirst
          have hdot : '.' ∈ statement.id.toList := hstatement.id ▸ mem_toList_append_dot _ _
          rw [hcarried]
          refine ⟨statement :: statements, .cons hstatement ?_, ?_, hafter⟩
          -- the statements do not matter for what a later method declares
          · exact hdeclared.imp fun _ _ h => { h with }
          · exact (Catalogue.Extends.insert .refl hdot hinsert).trans hextends

/-! ## Mappers that become known -/

/-- What is carried is one of the methods, with its SQL. -/
theorem recognized_of_mem_carried {methods : List MethodDeclaration}
    (h : (method, sql) ∈ carried methods) :
    method ∈ methods ∧ method.recognizedSql? = some sql := by
  rw [carried_eq] at h
  obtain ⟨m, hmem, hsql⟩ := List.mem_filterMap.mp h
  obtain ⟨found, hfound, heq⟩ := Option.map_eq_some_iff.mp hsql
  obtain ⟨rfl, rfl⟩ := Prod.mk.inj heq
  exact ⟨hmem, hfound⟩

/-- Different names give different ids. -/
theorem name_of_statementId {name name' : String}
    (h : mapper.statementId name = mapper.statementId name') : name = name' := by
  unfold statementId at h
  have hlist := congrArg String.toList h
  simp only [String.toList_append, List.append_right_inj] at hlist
  exact String.toList_injective hlist

/-- The statements that a mapper declares are not those of its methods without
SQL: no two of its methods have one name. -/
theorem id_ne_of_not_carried {added : List Statement} (hdistinct : mapper.duplicateMethod? = none)
    (hdeclared : List.Forall₂ (fun entry => mapper.Declares before entry.1 entry.2)
      (carried mapper.methods) added)
    (hmethod : method ∈ mapper.methods) (hnone : method.recognizedSql? = none) :
    ∀ statement ∈ added, statement.id ≠ mapper.statementId method.name := by
  intro statement hadded hid
  obtain ⟨⟨other, sql⟩, hentry, hdeclares⟩ := exists_of_forall₂ hdeclared hadded
  obtain ⟨hother, hsql⟩ := recognized_of_mem_carried hentry
  have hname : other.name = method.name := name_of_statementId (hdeclares.id.symm.trans hid)
  have hsame := method?_of_mem hdistinct hother
  rw [hname, method?_of_mem hdistinct hmethod] at hsame
  obtain rfl := Option.some.inj hsame
  rw [hnone] at hsql
  cases hsql

/-- A method of a known mapper that is demanded is bound to the statement of a
recognized kind that is listed under its full id. -/
theorem demanded_iff {settings : Settings} {types : TypeSystem}
    {changes : List Configuration.Change} {later : Configuration} {bound : BoundMethod}
    (hlater : later = ({ settings, types } : Configuration).after changes)
    (hknown : later.Knows mapper) (hmethod : mapper.method? method.name = some method) :
    ((Configuration.boundMethod mapper.typeName method.name).run later).1 = .ok bound ↔
      ∃ statement ∈ later.statements.values,
        statement.id = mapper.namespaceName ++ "." ++ method.name ∧ statement.kind ≠ .unknown ∧
        bound = { method, statementId := statement.id, kind := statement.kind } := by
  rw [Configuration.run_boundMethod_eq_ok_iff hlater hknown hmethod]
  refine exists_congr fun statement => and_congr_right fun _ => and_congr_right fun hid => ?_
  rw [boundTo, ← hid]

/-- Let a mapper become known in a configuration with any history. Its resource
did not count as loaded and its methods are named without dots. Then the
statements that it adds are those of its methods with SQL, in their order, and
all that was registered before is found as before. After any further history,
each of these methods is bound to its statement when it is demanded. A method
without SQL is bound exactly to a statement of a recognized kind under its full
id, and that is none of the mapper's own. -/
theorem register_binds {settings : Settings} {types : TypeSystem}
    {changes : List Configuration.Change} {registered : Configuration}
    (hbefore : before = ({ settings, types } : Configuration).after changes)
    (hnew : before.isLoaded mapper.resource = false)
    (hnames : ∀ method ∈ mapper.methods, '.' ∉ method.name.toList)
    (h : mapper.register.run before = (.ok (), registered)) :
    ∃ added,
      List.Forall₂ (fun entry => mapper.Declares before entry.1 entry.2)
        (carried mapper.methods) added ∧
      registered.statements.values = before.statements.values ++ added ∧
      (∀ id statement, '.' ∈ id.toList → before.statements.get id = .ok statement →
        registered.statements.get id = .ok statement) ∧
      registered.resultMaps = before.resultMaps ∧
      ∀ more,
        let later := registered.after more
        let demanded := fun name => ((Configuration.boundMethod mapper.typeName name).run later).1
        List.Forall₂ (fun entry statement =>
            later.statements.get statement.id = .ok statement ∧
              demanded entry.1.name =
                .ok { method := entry.1, statementId := statement.id, kind := statement.kind })
          (carried mapper.methods) added ∧
        ∀ method ∈ mapper.methods, (∀ sql, method.sql = some sql → sql.kind = .unknown) → ∀ bound,
          demanded method.name = .ok bound ↔
            ∃ statement ∈ later.statements.values, statement ∉ added ∧
              statement.id = mapper.namespaceName ++ "." ++ method.name ∧
              statement.kind ≠ .unknown ∧
              bound = { method, statementId := statement.id, kind := statement.kind } := by
  obtain ⟨-, hdistinct, -, elements, helements, hregistered⟩ := register_ok h hnew
  obtain ⟨added, hdeclared, hextends, hothers⟩ := exists_declared hnames helements
  have hstatements : registered.statements = elements.statements := by
    rw [hregistered]
    exact Configuration.markLoaded_cases elements mapper.resource fun _ => rfl
  rw [← hstatements] at hextends
  refine ⟨added, hdeclared, Configuration.values_of_extends hbefore hextends,
    fun id statement hid hget => hextends.get_of_get hid hget, ?_, ?_⟩
  · rw [hregistered]
    refine Configuration.markLoaded_cases elements mapper.resource fun _ => ?_
    rw [hothers]
  intro more later demanded
  have hlater : later = ({ settings, types } : Configuration).after
      (changes ++ .register mapper :: more) := by
    have hregister : (mapper.register.run before).2 = registered := congrArg Prod.snd h
    rw [Configuration.after_append, ← hbefore]
    show registered.after more = (mapper.register.run before).2.after more
    rw [hregister]
  have hknown : later.Knows mapper :=
    Configuration.stable_knows.after more (knows_of_register_ok h)
  have hdemanded {method : MethodDeclaration} (hmethod : method ∈ mapper.methods)
      {bound : BoundMethod} : demanded method.name = .ok bound ↔ _ :=
    demanded_iff hlater hknown (method?_of_mem hdistinct hmethod)
  constructor
  · refine List.forall₂_iff_zip.mpr ⟨hdeclared.length_eq, fun {entry statement} hzip => ?_⟩
    obtain ⟨hentry, hadded⟩ := List.of_mem_zip hzip
    obtain ⟨hmethod, hsql⟩ := recognized_of_mem_carried hentry
    have hstatement := List.forall₂_zip hdeclared hzip
    have hdot : '.' ∈ statement.id.toList := hstatement.id ▸ mem_toList_append_dot _ _
    have hget := Configuration.get_after_of_get more hdot (hextends.get_of_mem hadded)
    obtain ⟨hlisted, hid⟩ := (Configuration.get_eq_ok_iff_mem hlater hdot).mp hget
    refine ⟨hget, (hdemanded hmethod).mpr ⟨statement, hlisted, hstatement.id, ?_, rfl⟩⟩
    rw [hstatement.kind]
    exact kind_ne_unknown hsql
  · intro method hmethod hnone bound
    rw [← MethodDeclaration.recognizedSql?_eq_none_iff] at hnone
    rw [hdemanded hmethod]
    constructor
    · rintro ⟨statement, hlisted, hid, hkind, rfl⟩
      refine ⟨statement, hlisted, fun hadded => ?_, hid, hkind, rfl⟩
      exact id_ne_of_not_carried hdistinct hdeclared hmethod hnone statement hadded hid
    · rintro ⟨statement, hlisted, -, hid, hkind, rfl⟩
      exact ⟨statement, hlisted, hid, hkind, rfl⟩

/-- A mapper has three methods with SQL and one without. The parameters of the
three are one, several and none, and their result maps the own one of the
statement, none and the two that the method names. The first is bound at once, and
the fourth after somebody else has registered its statement. -/
theorem register_binds_four_methods :
    let count : MethodDeclaration := { name := "count", returns := some .int }
    let find : MethodDeclaration := {
      name := "find"
      sql := some { kind := .select, text := "select name" }
      parameters := [.named "id" .long]
      returns := some (.list .string) }
    let rename : MethodDeclaration := {
      name := "rename"
      sql := some { kind := .update, text := "update person" }
      parameters := [.named "id" .long, .named "name" .string] }
    let all : MethodDeclaration := {
      name := "all"
      sql := some { kind := .select, text := "select names" }
      resultMap := some "names, base.rows" }
    let mapper : MapperDeclaration :=
      { typeName := "Persons", namespaceName := "a.b", methods := [count, find, rename, all] }
    let before := ({} : Configuration).after [
      .addResultMap { resource := "maps", namespaceName := some "a.b" } "names" .string [] none,
      .addResultMap { resource := "base", namespaceName := some "base" } "rows" .map [] none]
    let registered := (mapper.register.run before).2
    let other : Configuration.Change :=
      .addStatement { resource := "other", namespaceName := some "a.b" } "count"
        { sql := "select 2", mappings := [] } .select none none none
    let demanded (config : Configuration) (name : String) :=
      ((Configuration.boundMethod "Persons" name).run config).1
    let found : Statement := {
      id := "a.b.find"
      resource := "Persons (mapper)"
      kind := .select
      sql := { sql := "select name", mappings := [] }
      parameterType := some .long
      resultMaps := [{ id := "a.b.find-Inline", type := .string, mappings := [] }] }
    let renamed : Statement := {
      id := "a.b.rename"
      resource := "Persons (mapper)"
      kind := .update
      sql := { sql := "update person", mappings := [] }
      parameterType := some .params
      resultMaps := [] }
    let listed : Statement := {
      id := "a.b.all"
      resource := "Persons (mapper)"
      kind := .select
      sql := { sql := "select names", mappings := [] }
      parameterType := none
      resultMaps := [
        { id := "a.b.names", type := .string, mappings := [] },
        { id := "base.rows", type := .map, mappings := [] }] }
    (mapper.register.run before).1 = .ok () ∧
      registered.statements.values = [found, renamed, listed] ∧
      demanded registered "find" =
        .ok { method := find, statementId := "a.b.find", kind := .select } ∧
      (∀ bound, demanded registered "count" ≠ .ok bound) ∧
      ∃ statement ∈ (registered.after [other]).statements.values, statement.id = "a.b.count" ∧
        demanded (registered.after [other]) "count" =
          .ok { method := count, statementId := statement.id, kind := statement.kind } := by
  intro count find rename all mapper before registered other demanded found renamed listed
  obtain ⟨_, hregister⟩ : ∃ done, (mapper.register.run before).1 = .ok done :=
    exists_ok_of_toBool (by decide +kernel)
  have hnames : ∀ method ∈ mapper.methods, '.' ∉ method.name.toList := by decide
  obtain ⟨added, hdeclared, hvalues, -, -, hmore⟩ :=
    register_binds rfl rfl hnames (Prod.ext hregister rfl)
  have hcompiled {text : String} {type : Option ValueType}
      (h : ({} : Settings).markers.scan text = .literal text.toList) :
      before.types.compile before.settings text type = .ok { sql := text, mappings := [] } :=
    TypeSystem.compile_of_literal h
  have hfound : mapper.Declares before find { kind := .select, text := "select name" } found := {
    id := rfl, resource := rfl, kind := rfl
    parameterType := .single _
    compiled := hcompiled (by decide +kernel)
    resultMaps := .inline rfl rfl rfl ⟨rfl, .list .string, rfl, rfl⟩ }
  have hrenamed :
      mapper.Declares before rename { kind := .update, text := "update person" } renamed := {
    id := rfl, resource := rfl, kind := rfl
    parameterType := .bag _ _ _
    compiled := hcompiled (by decide +kernel)
    resultMaps := .none rfl (.inl nofun) }
  have hlisted : mapper.Declares before all { kind := .select, text := "select names" } listed := {
    id := rfl, resource := rfl, kind := rfl
    parameterType := .none
    compiled := hcompiled (by decide +kernel)
    resultMaps := .referenced rfl (.cons rfl (.cons rfl .nil)) }
  have hexpected : List.Forall₂ (fun entry => mapper.Declares before entry.1 entry.2)
      (carried mapper.methods) [found, renamed, listed] :=
    .cons hfound (.cons hrenamed (.cons hlisted .nil))
  have hunique : Relator.RightUnique fun (entry : MethodDeclaration × MethodSql) =>
      mapper.Declares before entry.1 entry.2 := fun _ _ _ => Declares.unique
  obtain rfl : added = [found, renamed, listed] := hunique.forall₂ hdeclared hexpected
  have hvalues : registered.statements.values = [found, renamed, listed] := hvalues
  refine ⟨hregister, hvalues, ?_, fun bound hbound => ?_, ?_⟩
  · obtain ⟨⟨-, hfind⟩, -⟩ := List.forall₂_cons.mp (hmore []).1
    exact hfind
  · obtain ⟨statement, hmem, hother, -⟩ :=
      ((hmore []).2 count (by simp [mapper]) nofun bound).mp hbound
    have hmem : statement ∈ registered.statements.values := hmem
    rw [hvalues] at hmem
    exact hother hmem
  · obtain ⟨bound, hbound⟩ : ∃ bound, demanded (registered.after [other]) "count" = .ok bound :=
      exists_ok_of_toBool (by decide +kernel)
    obtain ⟨statement, hmem, -, hid, -, rfl⟩ :=
      ((hmore [other]).2 count (by simp [mapper]) nofun bound).mp hbound
    exact ⟨statement, hmem, hid, hbound⟩

end MapperDeclaration

end SqlMapper
