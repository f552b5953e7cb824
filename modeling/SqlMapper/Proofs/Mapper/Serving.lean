import SqlMapper.Proofs.Configuration.Registration

/-!
# Mapper methods and their statements

A mapper that becomes known has registered a statement for each of its
methods with SQL. The statement stands under the full id that calls ask for,
unless the name of the method already begins with the namespace: the element
is then registered under that name alone. From its registration on the method
is served by its statement, whatever else is registered.

## Main definitions

* `Configuration.Provides`, `Configuration.Serves` — calls of the method reach
  the statement, where the mapper is known.
* `MapperDeclaration.Built` — the statement is made of the SQL of the method.
* `MapperDeclaration.Owns` — the mapper registers the statement of the method.

## Main results

* `MapperDeclaration.Owns.provides`, `MapperDeclaration.register_serves` — what
  a registration makes known.
* `Configuration.stable_serves` — a served method stays served.
* `Configuration.Serves.run_boundMethod` — the first call and later ones.
-/

namespace SqlMapper

/-! ## The id of a statement -/

/-- A name that does not begin with the namespace is registered behind it. -/
theorem Assistant.elementId_of_short {assistant : Assistant} {namespaceName name id : String}
    (hnamespace : assistant.namespaceName = some namespaceName)
    (hname : ¬ (namespaceName ++ ".").toList <+: name.toList)
    (h : assistant.elementId name = .ok id) : id = namespaceName ++ "." ++ name := by
  have hstart : ¬ Text.startsWith (namespaceName.toList ++ ['.']) name.toList = true := by
    rwa [Text.startsWith_iff, show namespaceName.toList ++ ['.'] = (namespaceName ++ ".").toList by
      rw [String.toList_append]; rfl]
  unfold elementId requireNamespace at h
  rw [hnamespace] at h
  change (if Text.startsWith (namespaceName.toList ++ ['.']) name.toList then Except.ok name
    else if hasDot name then Except.error (Fault.builder (.dottedElement name))
    else Except.ok (namespaceName ++ "." ++ name)) = Except.ok id at h
  rw [if_neg hstart] at h
  split at h
  · cases h
  · exact (Except.ok.inj h).symm

/-! ## Methods without repeated names -/

namespace MapperDeclaration

private theorem notMem_of_firstRepeated_eq_none {seen names : List String}
    (h : firstRepeated seen names = none) :
    (∀ name ∈ names, name ∉ seen) ∧ names.Nodup := by
  induction names generalizing seen with
  | nil => simp
  | cons name names ih =>
      rw [firstRepeated] at h
      split at h
      · cases h
      · next hseen =>
          obtain ⟨hrest, hnodup⟩ := ih h
          have hnew : name ∉ names := by
            intro hmem
            exact hrest name hmem (by simp)
          refine ⟨?_, List.nodup_cons.mpr ⟨hnew, hnodup⟩⟩
          intro n hn
          rcases List.mem_cons.mp hn with rfl | hn
          · exact hseen
          · intro hmem
            exact hrest n hn (List.mem_cons_of_mem _ hmem)

private theorem find?_of_nodup {methods : List MethodDeclaration} {method : MethodDeclaration}
    (hnodup : (methods.map MethodDeclaration.name).Nodup) (h : method ∈ methods) :
    (methods.find? fun m => m.name = method.name) = some method := by
  induction methods with
  | nil => cases h
  | cons first methods ih =>
      obtain ⟨hfirst, hrest⟩ := List.nodup_cons.mp hnodup
      rcases List.mem_cons.mp h with rfl | h
      · simp
      · have hne : first.name ≠ method.name := by
          intro heq
          exact hfirst (heq ▸ List.mem_map_of_mem h)
        rw [List.find?_cons_of_neg (by simpa using hne), ih hrest h]

/-- In a mapper without repeated names a method is found under its name. -/
theorem method?_of_mem {mapper : MapperDeclaration} {method : MethodDeclaration}
    (h : mapper.duplicateMethod? = none) (hmethod : method ∈ mapper.methods) :
    mapper.method? method.name = some method :=
  find?_of_nodup (notMem_of_firstRepeated_eq_none h).2 hmethod

/-- The method of a mapper bound to a statement. -/
def boundTo (mapper : MapperDeclaration) (method : MethodDeclaration) (statement : Statement) :
    BoundMethod :=
  { method, statementId := mapper.statementId method.name, kind := statement.kind }

end MapperDeclaration

/-! ## Served methods -/

/-- Where the mapper is known, calls of the method reach the statement: it is
found, and the method is bound to nothing else. -/
structure Configuration.Provides (config : Configuration) (mapper : MapperDeclaration)
    (method : MethodDeclaration) (statement : Statement) : Prop where
  declared : mapper.method? method.name = some method
  recognized : statement.kind ≠ .unknown
  found : config.statements.get (mapper.statementId method.name) = .ok statement
  bound : ∀ known, config.mappers.find? mapper.typeName = some known → known.declaration = mapper →
    ∀ bound, known.bound.find? method.name = some bound → bound = mapper.boundTo method statement

/-- The mapper is known. -/
def Configuration.Knows (config : Configuration) (mapper : MapperDeclaration) : Prop :=
  ∃ known, config.mappers.find? mapper.typeName = some known ∧ known.declaration = mapper

/-- Calls of the method reach the statement. -/
structure Configuration.Serves (config : Configuration) (mapper : MapperDeclaration)
    (method : MethodDeclaration) (statement : Statement) : Prop
    extends config.Provides mapper method statement where
  known : config.Knows mapper

namespace Configuration

variable {mapper : MapperDeclaration} {method : MethodDeclaration} {statement : Statement}

/-- The statement of a method stays registered under its full id. -/
theorem stableUnderElements_found :
    StableUnderElements fun config =>
      config.statements.get (mapper.statementId method.name) = .ok statement where
  statement _ _ _ hfound _ hinsert :=
    Catalogue.get_insert_of_get hinsert (mem_toList_append_dot _ _) hfound
  resultMap _ _ _ hfound _ _ := hfound
  loaded config resource hfound := markLoaded_cases config resource fun _ => hfound

theorem Provides.bindMethod {config : Configuration}
    (h : config.Provides mapper method statement) :
    mapper.bindMethod config.statements method.name = .ok (mapper.boundTo method statement) := by
  unfold MapperDeclaration.bindMethod
  rw [h.declared]
  dsimp only
  rw [h.found]
  exact if_neg h.recognized

/-- A method that is provided for stays so. -/
theorem stable_provides : Stable fun config => config.Provides mapper method statement where
  statement config added statements h hid hinsert :=
    { h with found := stableUnderElements_found.statement config added statements h.found hid hinsert }
  resultMap _ _ _ h _ _ := { h with }
  loaded config resource h := markLoaded_cases config resource fun _ => { h with }
  types _ _ _ h := { h with }
  known config other h _ := by
    refine { h with bound := fun known hfind hdeclaration bound hbound => ?_ }
    rw [Entries.find?_put] at hfind
    split at hfind
    · -- a mapper that is new has no bound methods
      obtain rfl := Option.some.inj hfind
      cases hbound
    · exact h.bound known hfind hdeclaration bound hbound
  bound config typeName other name new h hother _ hbind := by
    refine { h with bound := fun known hfind hdeclaration bound hbound => ?_ }
    rw [Entries.find?_put] at hfind
    split at hfind
    · next htype =>
        subst htype
        obtain rfl := Option.some.inj hfind
        rw [Entries.find?_put] at hbound
        split at hbound
        · next hname =>
            -- the method itself is bound now, and to its statement
            rw [show other.declaration = mapper from hdeclaration, hname, h.bindMethod] at hbind
            exact (Option.some.inj hbound).symm.trans (Except.ok.inj hbind).symm
        · exact h.bound other hother hdeclaration bound hbound
    · exact h.bound known hfind hdeclaration bound hbound

/-- A known mapper stays known. -/
theorem stable_knows : Stable fun config => config.Knows mapper where
  statement _ _ _ h _ _ := h
  resultMap _ _ _ h _ _ := h
  loaded config resource h := markLoaded_cases config resource fun _ => h
  types _ _ _ h := h
  known config other h hnew := by
    obtain ⟨known, hfind, hdeclaration⟩ := h
    have hne : other.typeName ≠ mapper.typeName := by
      intro heq
      rw [hasMapper, Entries.has, heq, hfind] at hnew
      cases hnew
    refine ⟨known, ?_, hdeclaration⟩
    rw [Entries.find?_put, if_neg hne, hfind]
  bound config typeName other name bound h hother _ _ := by
    obtain ⟨known, hfind, hdeclaration⟩ := h
    by_cases heq : typeName = mapper.typeName
    · subst heq
      obtain rfl : other = known := Option.some.inj (hother.symm.trans hfind)
      exact ⟨{ other with bound := other.bound.put name bound },
        by rw [Entries.find?_put, if_pos rfl], hdeclaration⟩
    · refine ⟨known, ?_, hdeclaration⟩
      rw [Entries.find?_put, if_neg heq, hfind]

/-- A served method stays served. -/
theorem stable_serves : Stable fun config => config.Serves mapper method statement := by
  have hprovides : Stable fun config => config.Provides mapper method statement := stable_provides
  have hand := hprovides.and (stable_knows : Stable fun config => config.Knows mapper)
  have hiff (config : Configuration) : config.Serves mapper method statement =
      (config.Provides mapper method statement ∧ config.Knows mapper) :=
    propext ⟨fun h => ⟨h.toProvides, h.known⟩, fun h => { h.1 with known := h.2 }⟩
  simpa only [hiff] using hand

/-- Binding a served method gives its statement and leaves it served. -/
theorem Serves.run_boundMethod {config : Configuration}
    (h : config.Serves mapper method statement) :
    ∃ config', (Configuration.boundMethod mapper.typeName method.name).run config =
        (.ok (mapper.boundTo method statement), config') ∧
      config'.Serves mapper method statement := by
  have hkept := stable_serves.boundMethod mapper.typeName method.name config h
  obtain ⟨known, hfind, hdeclaration⟩ := h.known
  have hmapper : config.mapper mapper.typeName = .ok known := by
    rw [Configuration.mapper, hfind]
  suffices hrun : ((Configuration.boundMethod mapper.typeName method.name).run config).1 =
      .ok (mapper.boundTo method statement) from
    ⟨_, Prod.ext hrun rfl, hkept⟩
  rw [Configuration.boundMethod, run_bind_of_ok (run_get config), hmapper,
    run_bind_of_ok (run_lift (Except.ok known) config)]
  rcases hfound : known.bound.find? method.name with _ | bound
  · rw [hdeclaration, h.bindMethod]
    rfl
  · rw [h.bound known hfind hdeclaration bound hfound]
    rfl

end Configuration

/-! ## Registering a mapper -/

namespace MapperDeclaration

variable {mapper : MapperDeclaration} {method : MethodDeclaration} {sql : MethodSql}
  {before after : Configuration}

/-- The statement is what registering the method in the configuration makes of
its SQL. -/
structure Built (mapper : MapperDeclaration) (method : MethodDeclaration) (sql : MethodSql)
    (config : Configuration) (statement : Statement) : Prop where
  kind : statement.kind = sql.kind
  compiled : config.types.compile config.settings sql.text method.parameterType = .ok statement.sql
  resultMaps : ∃ (assistant : Assistant) (resultMaps : Catalogue ResultMap),
    assistant.resultMapsOf resultMaps (mapper.statementId method.name) sql.kind method.resultMap
      (if sql.kind.isSelect then method.returns else none) = .ok statement.resultMaps

/-- What the registration of a method with SQL writes when it succeeds. -/
theorem registerMethod_ok {assistant : Assistant} (hsql : method.recognizedSql? = some sql)
    (h : (registerMethod assistant method).run before = (.ok (), after)) :
    ∃ id compiled resultMaps statements,
      assistant.elementId method.name = .ok id ∧
      before.types.compile before.settings sql.text method.parameterType = .ok compiled ∧
      assistant.resultMapsOf before.resultMaps id sql.kind method.resultMap
        (if sql.kind.isSelect then method.returns else none) = .ok resultMaps ∧
      before.statements.insert id {
        id, resource := assistant.resource, kind := sql.kind, sql := compiled
        parameterType := method.parameterType, resultMaps } = .ok statements ∧
      after = { before with statements } := by
  unfold registerMethod at h
  rw [hsql] at h
  obtain ⟨compiled, s, hcompile, hadd⟩ := exists_of_run_bind_ok h
  rw [Assistant.compile, run_bind_of_ok (run_get before)] at hcompile
  obtain ⟨hcompiled, rfl⟩ := Prod.mk.inj hcompile
  obtain ⟨id, resultMaps, statements, helement, hmaps, hinsert, rfl⟩ := Assistant.addStatement_ok hadd
  exact ⟨id, compiled, resultMaps, statements, helement, hcompiled, hmaps, hinsert, rfl⟩

theorem kind_ne_unknown (hsql : method.recognizedSql? = some sql) :
    sql.kind ≠ .unknown := by
  unfold MethodDeclaration.recognizedSql? at hsql
  split at hsql
  · next declared _ =>
      split at hsql
      · cases hsql
      · next hkind =>
          obtain rfl := Option.some.inj hsql
          exact hkind
  · cases hsql

/-- Where the methods of a mapper are registered. -/
def assistant (mapper : MapperDeclaration) : Assistant :=
  { resource := mapper.resource, namespaceName := some mapper.namespaceName }

/-- A method that is registered under the id that calls ask for is found there
with a statement of its SQL. -/
theorem registerMethod_builds (hsql : method.recognizedSql? = some sql)
    (hid : ∀ id, mapper.assistant.elementId method.name = .ok id →
      id = mapper.statementId method.name)
    (h : (registerMethod mapper.assistant method).run before = (.ok (), after)) :
    ∃ statement, after.statements.get (mapper.statementId method.name) = .ok statement ∧
      mapper.Built method sql before statement := by
  obtain ⟨id, compiled, resultMaps, statements, helement, hcompiled, hmaps, hinsert, rfl⟩ :=
    registerMethod_ok hsql h
  obtain rfl := hid id helement
  exact ⟨_, Catalogue.get_insert_self hinsert, rfl, hcompiled, _, _, hmaps⟩

/-- Making the mapper known registers the statement of the method, made of the
SQL of the method, under the id that its calls ask for: the mapper is new, and
its registration gets past the method, whether or not it gets to the end. -/
structure Owns (mapper : MapperDeclaration) (method : MethodDeclaration) (sql : MethodSql)
    (before : Configuration) : Prop where
  unknown : before.hasMapper mapper.typeName = false
  notLoaded : before.isLoaded mapper.resource = false
  distinct : mapper.duplicateMethod? = none
  opens : Assistant.enter { resource := mapper.resource } mapper.namespaceName =
    .ok mapper.assistant
  registers : ∃ methods after, methods <+: mapper.methods ∧ method ∈ methods ∧
    (methods.forM (registerMethod mapper.assistant)).run before = (.ok (), after)
  recognized : method.recognizedSql? = some sql
  id : ∀ id, mapper.assistant.elementId method.name = .ok id → id = mapper.statementId method.name

/-- What making a new mapper known does from some method on. -/
private theorem run_register_of_methods {methods rest : List MethodDeclaration}
    (hunknown : before.hasMapper mapper.typeName = false)
    (hnew : before.isLoaded mapper.resource = false) (hdistinct : mapper.duplicateMethod? = none)
    (hopens : Assistant.enter { resource := mapper.resource } mapper.namespaceName =
      .ok mapper.assistant)
    (hmethods : methods ++ rest = mapper.methods)
    (hrun : (methods.forM (registerMethod mapper.assistant)).run before = (.ok (), after)) :
    mapper.register.run before =
      (do
        rest.forM (registerMethod mapper.assistant)
        modify fun config => config.markLoaded mapper.resource
        modify fun config => { config with
          mappers := config.mappers.put mapper.typeName { declaration := mapper } } :
        Configure Unit).run after := by
  rw [register, run_bind_of_ok (run_get before), hunknown, if_neg Bool.false_ne_true]
  have hstatements : mapper.registerStatements.run before = (do
      rest.forM (registerMethod mapper.assistant)
      modify fun config => config.markLoaded mapper.resource : Configure Unit).run after := by
    rw [registerStatements, run_bind_of_ok (run_get before), hnew, if_neg Bool.false_ne_true,
      hdistinct]
    dsimp only
    rw [hopens, run_bind_of_ok (run_lift (Except.ok mapper.assistant) before), ← hmethods,
      List.forM_eq_forM, List.forM_append, bind_assoc]
    exact run_bind_of_ok hrun
  rw [run_bind, hstatements, ← run_bind, bind_assoc]

/-- What holds when making a new mapper known is past some method, and is
stable, holds at the end. -/
private theorem keeps_register_of_methods {P : Configuration → Prop} (hP : Configuration.Stable P)
    {methods rest : List MethodDeclaration} (hunknown : before.hasMapper mapper.typeName = false)
    (hnew : before.isLoaded mapper.resource = false) (hdistinct : mapper.duplicateMethod? = none)
    (hopens : Assistant.enter { resource := mapper.resource } mapper.namespaceName =
      .ok mapper.assistant)
    (hmethods : methods ++ rest = mapper.methods)
    (hrun : (methods.forM (registerMethod mapper.assistant)).run before = (.ok (), after))
    (hafter : P after ∧ after.mappers = before.mappers) : P (mapper.register.run before).2 := by
  have helements := hP.toStableUnderElements.and
    (Configuration.stableUnderElements_mappers before.mappers)
  rw [run_register_of_methods hunknown hnew hdistinct hopens hmethods hrun]
  have hkeeps : Keeps (fun config => P config ∧ config.mappers = before.mappers)
      (rest.forM (registerMethod mapper.assistant)) :=
    Keeps.forM fun method _ => helements.registerMethod mapper.assistant method
  have hrest := hkeeps after hafter
  rw [run_bind]
  rcases hrun' : (rest.forM (registerMethod mapper.assistant)).run after with ⟨_ | _, config⟩ <;>
    rw [hrun'] at hrest
  · exact hrest.1
  · obtain ⟨hloaded, hmappers⟩ := helements.loaded config mapper.resource hrest
    refine hP.known _ mapper hloaded ?_
    rw [Configuration.hasMapper, hmappers]
    exact hunknown

/-- The mapper provides for a method that it owns, by a statement made of the
SQL of the method. -/
theorem Owns.provides (h : mapper.Owns method sql before) :
    ∃ statement, (mapper.register.run before).2.Provides mapper method statement ∧
      mapper.Built method sql before statement := by
  obtain ⟨methods, after, ⟨rest, hmethods⟩, hmem, hrun⟩ := h.registers
  have hmethod : method ∈ mapper.methods := hmethods ▸ List.mem_append_left rest hmem
  obtain ⟨s₁, s₂, hregister, hbefore, hafter⟩ := exists_of_run_forM_ok hrun hmem
  have henvironment :=
    Configuration.stableUnderElements_environment before.settings before.types
  have hmappers := Configuration.stableUnderElements_mappers before.mappers
  obtain ⟨hsettings, htypes⟩ :=
    hbefore _ (fun m _ => henvironment.registerMethod _ m) ⟨rfl, rfl⟩
  have hmappers₁ := hbefore _ (fun m _ => hmappers.registerMethod _ m) rfl
  have hmappers₂ := hmappers.registerMethod mapper.assistant method s₁ hmappers₁
  rw [hregister] at hmappers₂
  obtain ⟨statement, hfound, hbuilt⟩ := registerMethod_builds h.recognized h.id hregister
  have hprovides : s₂.Provides mapper method statement := {
    declared := method?_of_mem h.distinct hmethod
    recognized := by
      rw [hbuilt.kind]
      exact kind_ne_unknown h.recognized
    found := hfound
    bound := by
      intro known hfind
      have hunknown := h.unknown
      rw [Configuration.hasMapper, ← hmappers₂, Entries.has, hfind] at hunknown
      cases hunknown }
  have hstable : Configuration.Stable fun config => config.Provides mapper method statement :=
    Configuration.stable_provides
  have hend := hafter _
    (fun m _ => (hstable.toStableUnderElements.and hmappers).registerMethod _ m)
    ⟨hprovides, hmappers₂⟩
  refine ⟨statement, keeps_register_of_methods hstable h.unknown h.notLoaded h.distinct h.opens
    hmethods hrun hend, hbuilt.kind, ?_, hbuilt.resultMaps⟩
  rw [← hsettings, ← htypes]
  exact hbuilt.compiled

/-- What making a mapper known does when it succeeds, if the mapper does not
count as loaded. -/
theorem register_ok (h : mapper.register.run before = (.ok (), after))
    (hnew : before.isLoaded mapper.resource = false) :
    before.hasMapper mapper.typeName = false ∧ mapper.duplicateMethod? = none ∧
      Assistant.enter { resource := mapper.resource } mapper.namespaceName =
        .ok mapper.assistant ∧
      ∃ elements, (mapper.methods.forM (registerMethod mapper.assistant)).run before =
          (.ok (), elements) ∧
        after = { elements.markLoaded mapper.resource with
          mappers := (elements.markLoaded mapper.resource).mappers.put mapper.typeName
            { declaration := mapper } } := by
  rw [register, run_bind_of_ok (run_get before)] at h
  by_cases hknown : before.hasMapper mapper.typeName = true
  · rw [if_pos hknown] at h
    cases h
  rw [if_neg hknown] at h
  obtain ⟨_, registered, hstatements, hput⟩ := exists_of_run_bind_ok h
  rw [registerStatements, run_bind_of_ok (run_get before), hnew, if_neg Bool.false_ne_true]
    at hstatements
  rcases hduplicate : mapper.duplicateMethod? with _ | name <;> rw [hduplicate] at hstatements
  · obtain ⟨assistant, henter, hrest⟩ :=
      exists_of_run_bind_ok_of_keeps (fun _ => keeps_lift _) hstatements
    obtain ⟨_, elements, helements, hmark⟩ := exists_of_run_bind_ok hrest
    have hopens := (Prod.mk.inj henter).1
    obtain rfl : mapper.assistant = assistant := by
      have hassistant : Assistant.enter { resource := mapper.resource } mapper.namespaceName =
        .ok assistant := hopens
      unfold Assistant.enter at hassistant
      split at hassistant
      · cases hassistant
      · exact Except.ok.inj hassistant
    obtain rfl := (Prod.mk.inj hmark).2
    exact ⟨Bool.not_eq_true _ ▸ hknown, rfl, hopens, elements, helements, (Prod.mk.inj hput).2.symm⟩
  · cases hstatements

/-- A mapper that becomes known, and was not loaded before, owns each of its
methods with SQL that is registered under the id that calls ask for. -/
theorem Owns.of_register_ok (h : mapper.register.run before = (.ok (), after))
    (hnew : before.isLoaded mapper.resource = false) (hmethod : method ∈ mapper.methods)
    (hsql : method.recognizedSql? = some sql)
    (hid : ∀ id, mapper.assistant.elementId method.name = .ok id →
      id = mapper.statementId method.name) : mapper.Owns method sql before := by
  obtain ⟨hunknown, hdistinct, hopens, elements, helements, -⟩ := register_ok h hnew
  exact {
    unknown := hunknown
    notLoaded := hnew
    distinct := hdistinct
    opens := hopens
    registers := ⟨mapper.methods, elements, List.prefix_rfl, hmethod, helements⟩
    recognized := hsql
    id := hid }

/-- A mapper that was made known is known. -/
theorem knows_of_register_ok (h : mapper.register.run before = (.ok (), after)) :
    after.Knows mapper := by
  rw [register, run_bind_of_ok (run_get before)] at h
  split at h
  · cases h
  · obtain ⟨_, registered, -, hput⟩ := exists_of_run_bind_ok h
    cases hput
    exact ⟨{ declaration := mapper }, by rw [Entries.find?_put, if_pos rfl], rfl⟩

/-- A mapper that becomes known, and was not loaded before, serves each of its
methods with SQL by a statement of that SQL, unless the name of the method
begins with the namespace. -/
theorem register_serves (h : mapper.register.run before = (.ok (), after))
    (hnew : before.isLoaded mapper.resource = false) (hmethod : method ∈ mapper.methods)
    (hsql : method.recognizedSql? = some sql)
    (hname : ¬ (mapper.namespaceName ++ ".").toList <+: method.name.toList) :
    ∃ statement, after.Serves mapper method statement ∧ statement.kind = sql.kind ∧
      before.types.compile before.settings sql.text method.parameterType = .ok statement.sql := by
  have howns := Owns.of_register_ok h hnew hmethod hsql
    fun id hid => Assistant.elementId_of_short rfl hname hid
  obtain ⟨statement, hprovides, hbuilt⟩ := howns.provides
  rw [h] at hprovides
  exact ⟨statement, { hprovides with known := knows_of_register_ok h }, hbuilt.kind,
    hbuilt.compiled⟩

end MapperDeclaration

end SqlMapper
