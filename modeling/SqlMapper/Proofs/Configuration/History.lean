import SqlMapper.Configuration.MapperFile
import SqlMapper.Mapper.Dispatch
import SqlMapper.Proofs.Run

/-!
# The history of a configuration

A configuration changes by loading mapper files, by registering mappers, by
what assistants register, and by the first calls of mapper methods. Each
change may fail; what it registered before that stays. All of them come down
to a few writes, so a property of configurations that these writes keep holds
after any history. Where it matters how an element came about, the property has
to be kept by what assistants register, and not by every write.

## Main definitions

* `Configuration.Change` — the changes.
* `Configuration.after` — the configuration after a history.
* `Configuration.StableUnderElements`, `Configuration.Stable` — the writes
  keep a property.
* `Configuration.StableUnderAssistants`, `Configuration.StableUnderChanges` —
  what assistants register keeps a property.

## Main results

* `Configuration.Stable.after`, `Configuration.StableUnderChanges.after` — what
  the writes keep, or what assistants and the other writes keep, every history
  keeps.
-/

namespace SqlMapper

/-! ## Full ids -/

theorem mem_toList_append_dot (front back : String) :
    '.' ∈ (front ++ "." ++ back).toList := by
  rw [String.toList_append, String.toList_append]
  simp

/-- The full id of an element has a dot. -/
theorem Assistant.dot_mem_of_elementId {assistant : Assistant} {name id : String}
    (h : assistant.elementId name = .ok id) : '.' ∈ id.toList := by
  unfold elementId requireNamespace at h
  rcases hnamespace : assistant.namespaceName with _ | namespaceName <;> rw [hnamespace] at h
  · cases h
  · change (if Text.startsWith (namespaceName.toList ++ ['.']) name.toList then Except.ok name
      else if hasDot name then Except.error (Fault.builder (.dottedElement name))
      else Except.ok (namespaceName ++ "." ++ name)) = Except.ok id at h
    split at h
    · next hstart =>
        obtain ⟨rest, hrest⟩ := Option.isSome_iff_exists.mp hstart
        obtain rfl := Except.ok.inj h
        rw [Text.dropPrefix?_eq_some_iff.mp hrest]
        simp
    · split at h
      · cases h
      · obtain rfl := Except.ok.inj h
        exact mem_toList_append_dot namespaceName name

/-- The full id of an element that is referred to has a dot. -/
theorem Assistant.dot_mem_of_referenceId {assistant : Assistant} {name id : String}
    (h : assistant.referenceId name = .ok id) : '.' ∈ id.toList := by
  obtain ⟨namespaceName, -, h⟩ := exists_of_bind_ok h
  by_cases hdot : hasDot name = true
  · rw [if_pos hdot] at h
    obtain rfl := Except.ok.inj h
    simpa [hasDot] using hdot
  · rw [if_neg hdot] at h
    obtain rfl := Except.ok.inj h
    exact mem_toList_append_dot namespaceName name

namespace Configuration

/-! ## Changes -/

/-- A change of a configuration. -/
inductive Change where
  | load (content resource : String)
  | register (mapper : MapperDeclaration)
  | addResultMap (assistant : Assistant) (name : String) (type : ValueType)
      (mappings : List ResultMapping) (autoMapping : Option Bool)
  | addStatement (assistant : Assistant) (name : String) (sql : CompiledSql)
      (kind : StatementKind) (parameterType : Option ValueType) (references : Option String)
      (resultType : Option ValueType)
  | markLoaded (resource : String)
  | setTypes (handlers : HandlerRegistry) (aliases : AliasRegistry)
  /-- The first call of a mapper method, or a later one. -/
  | bind (typeName method : String)

/-- Carries a change out. -/
def Change.run : Change → Configure Unit
  | load content resource => loadMapper content resource
  | register mapper => mapper.register
  | addResultMap assistant name type mappings autoMapping =>
      assistant.addResultMap name type mappings autoMapping
  | addStatement assistant name sql kind parameterType references resultType =>
      assistant.addStatement name sql kind parameterType references resultType
  | markLoaded resource => modify fun config => config.markLoaded resource
  | setTypes handlers aliases =>
      modify fun config => { config with types := { config.types with handlers, aliases } }
  | bind typeName method => do let _ ← boundMethod typeName method

/-- The configuration after a history of changes, whether they succeed or
fail. -/
def after (config : Configuration) (changes : List Change) : Configuration :=
  changes.foldl (fun config change => (change.run.run config).2) config

theorem after_append (config : Configuration) (earlier later : List Change) :
    config.after (earlier ++ later) = (config.after earlier).after later :=
  List.foldl_append

/-- Marking a document as loaded changes the list of loaded documents at most. -/
@[elab_as_elim]
theorem markLoaded_cases {motive : Configuration → Prop} (config : Configuration)
    (resource : String) (h : ∀ loaded, motive { config with loaded }) :
    motive (config.markLoaded resource) := by
  unfold markLoaded
  split
  · exact h config.loaded
  · exact h _

/-! ## Stable properties -/

/-- The writes that documents are made of keep the property: new statements
and result maps under full ids, and the marks of loaded documents. -/
structure StableUnderElements (P : Configuration → Prop) : Prop where
  statement : ∀ config (statement : Statement) statements, P config →
    '.' ∈ statement.id.toList → config.statements.insert statement.id statement = .ok statements →
    P { config with statements }
  resultMap : ∀ config (resultMap : ResultMap) resultMaps, P config →
    '.' ∈ resultMap.id.toList → config.resultMaps.insert resultMap.id resultMap = .ok resultMaps →
    P { config with resultMaps }
  loaded : ∀ config resource, P config → P (config.markLoaded resource)

/-- What assistants register keeps the property, and so do the marks of loaded
documents. -/
structure StableUnderAssistants (P : Configuration → Prop) : Prop where
  statement : ∀ (assistant : Assistant) (name : String) (sql : CompiledSql) (kind : StatementKind)
    (parameterType : Option ValueType) (references : Option String)
    (resultType : Option ValueType),
    Keeps P (assistant.addStatement name sql kind parameterType references resultType)
  resultMap : ∀ (assistant : Assistant) (name : String) (type : ValueType)
    (mappings : List ResultMapping) (autoMapping : Option Bool),
    Keeps P (assistant.addResultMap name type mappings autoMapping)
  loaded : ∀ config resource, P config → P (config.markLoaded resource)

/-- The writes that no document makes keep the property: new handlers and
aliases, mappers that were not known before, and methods that were not bound
before. -/
structure StableBesideElements (P : Configuration → Prop) : Prop where
  types : ∀ config handlers aliases, P config →
    P { config with types := { config.types with handlers, aliases } }
  known : ∀ config (mapper : MapperDeclaration), P config →
    config.hasMapper mapper.typeName = false →
    P { config with mappers := config.mappers.put mapper.typeName { declaration := mapper } }
  bound : ∀ config typeName (known : KnownMapper) name bound, P config →
    config.mappers.find? typeName = some known → known.bound.find? name = none →
    known.declaration.bindMethod config.statements name = .ok bound →
    P { config with
      mappers := config.mappers.put typeName { known with bound := known.bound.put name bound } }

/-- All writes keep the property, whatever statements and result maps are
registered. -/
structure Stable (P : Configuration → Prop) : Prop
    extends StableUnderElements P, StableBesideElements P

/-- All changes keep the property, whatever assistants are asked to register. -/
structure StableUnderChanges (P : Configuration → Prop) : Prop
    extends StableUnderAssistants P, StableBesideElements P

/-! ## Documents -/

namespace StableUnderElements

variable {P : Configuration → Prop}

theorem addStatement (h : StableUnderElements P) (assistant : Assistant) (name : String)
    (sql : CompiledSql) (kind : StatementKind) (parameterType : Option ValueType)
    (references : Option String) (resultType : Option ValueType) :
    Keeps P (assistant.addStatement name sql kind parameterType references resultType) := by
  intro config hconfig
  unfold Assistant.addStatement
  rcases hid : assistant.elementId name with fault | id
  · exact hconfig
  · rw [run_bind_of_ok (run_lift (Except.ok id) config), run_bind_of_ok (run_get config)]
    rcases hmaps : assistant.resultMapsOf config.resultMaps id kind references resultType with
      fault | resultMaps
    · exact hconfig
    · let statement : Statement :=
        { id, resource := assistant.resource, kind, sql, parameterType, resultMaps }
      rw [run_bind_of_ok (run_lift (Except.ok resultMaps) config)]
      show P ((Configuration.addStatement statement).run config).2
      rw [Configuration.addStatement, run_bind_of_ok (run_get config)]
      rcases hinsert : config.statements.insert statement.id statement with fault | statements
      · exact hconfig
      · exact h.statement config statement statements hconfig
          (Assistant.dot_mem_of_elementId hid) hinsert

theorem addResultMap (h : StableUnderElements P) (assistant : Assistant) (name : String)
    (type : ValueType) (mappings : List ResultMapping) (autoMapping : Option Bool) :
    Keeps P (assistant.addResultMap name type mappings autoMapping) := by
  intro config hconfig
  unfold Assistant.addResultMap
  rcases hid : assistant.elementId name with fault | id
  · exact hconfig
  · let resultMap : ResultMap := { id, type, mappings, autoMapping }
    show P ((Configuration.addResultMap resultMap).run config).2
    rw [Configuration.addResultMap, run_bind_of_ok (run_get config)]
    rcases hinsert : config.resultMaps.insert resultMap.id resultMap with fault | resultMaps
    · exact hconfig
    · exact h.resultMap config resultMap resultMaps hconfig
        (Assistant.dot_mem_of_elementId hid) hinsert

/-- Assistants write nothing but elements of documents. -/
theorem underAssistants (h : StableUnderElements P) : StableUnderAssistants P where
  statement := h.addStatement
  resultMap := h.addResultMap
  loaded := h.loaded

end StableUnderElements

namespace StableUnderAssistants

variable {P Q : Configuration → Prop}

theorem loadResultMap (h : StableUnderAssistants P) (assistant : Assistant)
    (entry : ResultMapEntry) : Keeps P (MapperFile.loadResultMap assistant entry) := by
  refine Keeps.bind keeps_get fun config => ?_
  refine Keeps.bind (keeps_lift _) fun type => ?_
  refine Keeps.bind (Keeps.mapM fun mapping _ => keeps_lift _) fun mappings => ?_
  exact h.resultMap assistant entry.id type mappings entry.autoMapping

theorem loadStatement (h : StableUnderAssistants P) (assistant : Assistant)
    (entry : StatementEntry) : Keeps P (MapperFile.loadStatement assistant entry) := by
  unfold MapperFile.loadStatement
  dsimp only
  split
  · exact keeps_pure _
  · refine Keeps.bind keeps_get fun config => ?_
    refine Keeps.bind (keeps_lift _) fun parameterType => ?_
    refine Keeps.bind (keeps_lift _) fun resultType => ?_
    refine Keeps.bind (Keeps.bind keeps_get fun config => keeps_lift _) fun sql => ?_
    exact h.statement _ _ _ _ _ _ _

theorem load (h : StableUnderAssistants P) (file : MapperFile) (resource : String) :
    Keeps P (file.load resource) := by
  refine Keeps.bind keeps_get fun config => ?_
  split
  · exact keeps_pure _
  · refine Keeps.bind (keeps_lift _) fun assistant => ?_
    refine Keeps.bind (Keeps.forM fun entry _ => h.loadResultMap assistant entry) fun _ => ?_
    refine Keeps.bind (Keeps.forM fun entry _ => h.loadStatement assistant entry) fun _ => ?_
    exact keeps_modify fun config hconfig => h.loaded config resource hconfig

theorem registerMethod (h : StableUnderAssistants P) (assistant : Assistant)
    (method : MethodDeclaration) :
    Keeps P (MapperDeclaration.registerMethod assistant method) := by
  unfold MapperDeclaration.registerMethod
  split
  · exact keeps_pure _
  · refine Keeps.bind ?_ fun compiled => ?_
    · exact Keeps.bind keeps_get fun config => keeps_lift _
    · exact h.statement _ _ _ _ _ _ _

theorem registerStatements (h : StableUnderAssistants P) (mapper : MapperDeclaration) :
    Keeps P mapper.registerStatements := by
  refine Keeps.bind keeps_get fun config => ?_
  split
  · exact keeps_pure _
  · split
    · exact keeps_throw _
    · refine Keeps.bind (keeps_lift _) fun assistant => ?_
      refine Keeps.bind (Keeps.forM fun method _ => h.registerMethod assistant method) fun _ => ?_
      exact keeps_modify fun config hconfig => h.loaded config mapper.resource hconfig

theorem and (hP : StableUnderAssistants P) (hQ : StableUnderAssistants Q) :
    StableUnderAssistants fun config => P config ∧ Q config where
  statement assistant name sql kind parameterType references resultType :=
    (hP.statement assistant name sql kind parameterType references resultType).and
      (hQ.statement assistant name sql kind parameterType references resultType)
  resultMap assistant name type mappings autoMapping :=
    (hP.resultMap assistant name type mappings autoMapping).and
      (hQ.resultMap assistant name type mappings autoMapping)
  loaded config resource hconfig :=
    ⟨hP.loaded config resource hconfig.1, hQ.loaded config resource hconfig.2⟩

end StableUnderAssistants

theorem StableUnderElements.registerMethod {P : Configuration → Prop} (h : StableUnderElements P)
    (assistant : Assistant) (method : MethodDeclaration) :
    Keeps P (MapperDeclaration.registerMethod assistant method) :=
  h.underAssistants.registerMethod assistant method

/-- Documents leave the mappers alone. -/
theorem stableUnderElements_mappers (mappers : Entries KnownMapper) :
    StableUnderElements fun config => config.mappers = mappers where
  statement _ _ _ hconfig _ _ := hconfig
  resultMap _ _ _ hconfig _ _ := hconfig
  loaded config resource hconfig := markLoaded_cases config resource fun _ => hconfig

/-- Documents leave the settings and the types alone. -/
theorem stableUnderElements_environment (settings : Settings) (types : TypeSystem) :
    StableUnderElements fun config => config.settings = settings ∧ config.types = types where
  statement _ _ _ hconfig _ _ := hconfig
  resultMap _ _ _ hconfig _ _ := hconfig
  loaded config resource hconfig := markLoaded_cases config resource fun _ => hconfig

/-- A mapper that becomes known leaves the settings and the types alone. -/
theorem keeps_register_environment (settings : Settings) (types : TypeSystem)
    (mapper : MapperDeclaration) :
    Keeps (fun config => config.settings = settings ∧ config.types = types) mapper.register := by
  refine Keeps.bind keeps_get fun config => ?_
  split
  · exact keeps_throw _
  · have helements := stableUnderElements_environment settings types
    refine Keeps.bind (helements.underAssistants.registerStatements mapper) fun _ => ?_
    exact keeps_modify fun config hconfig => hconfig

theorem StableUnderElements.and {P Q : Configuration → Prop} (hP : StableUnderElements P)
    (hQ : StableUnderElements Q) : StableUnderElements fun config => P config ∧ Q config where
  statement config statement statements hconfig hid hinsert :=
    ⟨hP.statement config statement statements hconfig.1 hid hinsert,
      hQ.statement config statement statements hconfig.2 hid hinsert⟩
  resultMap config resultMap resultMaps hconfig hid hinsert :=
    ⟨hP.resultMap config resultMap resultMaps hconfig.1 hid hinsert,
      hQ.resultMap config resultMap resultMaps hconfig.2 hid hinsert⟩
  loaded config resource hconfig :=
    ⟨hP.loaded config resource hconfig.1, hQ.loaded config resource hconfig.2⟩

/-! ## Histories -/

/-- Demanding a bound method writes at most a method that was not bound. -/
theorem keeps_boundMethod {P : Configuration → Prop}
    (h : ∀ config typeName (known : KnownMapper) name bound, P config →
      config.mappers.find? typeName = some known → known.bound.find? name = none →
      known.declaration.bindMethod config.statements name = .ok bound →
      P { config with
        mappers := config.mappers.put typeName { known with bound := known.bound.put name bound } })
    (typeName name : String) : Keeps P (boundMethod typeName name) := by
  intro config hconfig
  rw [boundMethod, run_bind_of_ok (run_get config), mapper]
  rcases hfind : config.mappers.find? typeName with _ | known
  · exact hconfig
  · rw [run_bind_of_ok (run_lift (Except.ok known) config)]
    rcases hbound : known.bound.find? name with _ | bound
    · rcases hbind : known.declaration.bindMethod config.statements name with fault | bound
      · exact hconfig
      · exact h config typeName known name bound hconfig hfind hbound hbind
    · exact hconfig

namespace Stable

variable {P Q : Configuration → Prop}

theorem and (hP : Stable P) (hQ : Stable Q) : Stable fun config => P config ∧ Q config where
  toStableUnderElements := hP.toStableUnderElements.and hQ.toStableUnderElements
  types config handlers aliases hconfig :=
    ⟨hP.types config handlers aliases hconfig.1, hQ.types config handlers aliases hconfig.2⟩
  known config mapper hconfig hnew :=
    ⟨hP.known config mapper hconfig.1 hnew, hQ.known config mapper hconfig.2 hnew⟩
  bound config typeName known name bound hconfig hfind hfree hbind :=
    ⟨hP.bound config typeName known name bound hconfig.1 hfind hfree hbind,
      hQ.bound config typeName known name bound hconfig.2 hfind hfree hbind⟩

theorem boundMethod (h : Stable P) (typeName name : String) :
    Keeps P (Configuration.boundMethod typeName name) :=
  keeps_boundMethod h.bound typeName name

theorem underChanges (h : Stable P) : StableUnderChanges P where
  toStableUnderAssistants := h.toStableUnderElements.underAssistants
  toStableBesideElements := h.toStableBesideElements

end Stable

namespace StableUnderChanges

variable {P : Configuration → Prop}

theorem register (h : StableUnderChanges P) (mapper : MapperDeclaration) :
    Keeps P mapper.register := by
  intro config hconfig
  rw [MapperDeclaration.register, run_bind_of_ok (run_get config)]
  by_cases hknown : config.hasMapper mapper.typeName = true
  · rw [if_pos hknown]
    exact hconfig
  · rw [if_neg hknown]
    -- The mapper is still unknown when its statements are registered.
    have hmappers := (stableUnderElements_mappers config.mappers).underAssistants
    obtain ⟨hP, hmappers⟩ :=
      (h.toStableUnderAssistants.and hmappers).registerStatements mapper config ⟨hconfig, rfl⟩
    rw [run_bind]
    rcases hrun : mapper.registerStatements.run config with ⟨_ | _, c⟩ <;> rw [hrun] at hP hmappers
    · exact hP
    · apply h.known c mapper hP
      rw [hasMapper, hmappers]
      exact Bool.not_eq_true _ ▸ hknown

/-- Every change keeps what assistants and the other writes keep. -/
theorem change (h : StableUnderChanges P) (change : Change) : Keeps P change.run := by
  cases change with
  | load content resource => exact Keeps.bind (keeps_lift _) fun file => h.load file resource
  | register mapper => exact h.register mapper
  | addResultMap assistant name type mappings autoMapping =>
      exact h.resultMap assistant name type mappings autoMapping
  | addStatement assistant name sql kind parameterType references resultType =>
      exact h.statement assistant name sql kind parameterType references resultType
  | markLoaded resource => exact keeps_modify fun config hconfig => h.loaded config resource hconfig
  | setTypes handlers aliases =>
      exact keeps_modify fun config hconfig => h.types config handlers aliases hconfig
  | bind typeName method => exact Keeps.bind (keeps_boundMethod h.bound typeName method) fun _ => keeps_pure _

/-- Every history keeps what the changes keep. -/
theorem after (h : StableUnderChanges P) (changes : List Change) {config : Configuration}
    (hconfig : P config) : P (config.after changes) := by
  induction changes generalizing config with
  | nil => exact hconfig
  | cons change changes ih => exact ih (h.change change config hconfig)

end StableUnderChanges

/-- Every history keeps what the writes keep. -/
theorem Stable.after {P : Configuration → Prop} (h : Stable P) (changes : List Change)
    {config : Configuration} (hconfig : P config) : P (config.after changes) :=
  h.underChanges.after changes hconfig

end Configuration

end SqlMapper
