import SqlMapper.Proofs.Catalogue
import SqlMapper.Proofs.Configuration.History

/-!
# The registered statements

Whatever happens to a configuration, its catalogue of statements changes by
single registrations only, each of them under a full id. So at any time the
statements registered so far, in their order, determine what is listed, what
a name finds and what can be registered next.

## Main definitions

* `Configuration.Registered` — these statements were registered, in this
  order.
* `ResultMap.IsInline` — the result map is the one that a statement has of its
  own.

## Main results

* `Configuration.stable_registered` — every change of a configuration comes
  down to registrations.
* `Configuration.statements_after` — the catalogue of statements after any
  history is determined by what was registered.
* `Configuration.get_eq_ok_iff_mem`, `Configuration.values_of_extends` — what a
  full id finds then, and what is listed.
* `Assistant.addStatement_ok`, `Assistant.addResultMap_ok` — what an element
  of a document writes.
* `Assistant.resultMapsOf_ok`, `Assistant.resultMapsOf_of_keptBy` — what the
  references of a statement find, and that they still find it later.
-/

namespace SqlMapper

namespace Configuration

/-- From the start to the present, the catalogue of statements changed by the
registration of these statements, in this order, and by nothing else. -/
inductive Registered (start : Configuration) : List Statement → Configuration → Prop where
  | start : Registered start [] start
  | statement {statements : List Statement} {config config' : Configuration}
      {statement : Statement} (hregistered : Registered start statements config)
      (hid : '.' ∈ statement.id.toList)
      (hadd : (addStatement statement).run config = (.ok (), config')) :
      Registered start (statements ++ [statement]) config'
  | other {statements : List Statement} {config config' : Configuration}
      (hregistered : Registered start statements config)
      (hsame : config'.statements = config.statements) : Registered start statements config'

/-! ## Registering one statement -/

variable {start config config' : Configuration} {registered : List Statement}
  {statement : Statement}

/-- A statement is registered if the catalogue takes it. -/
theorem run_addStatement_of_ok {statements : Catalogue Statement}
    (h : config.statements.insert statement.id statement = .ok statements) :
    (addStatement statement).run config = (.ok (), { config with statements }) := by
  rw [addStatement, run_bind_of_ok (run_get config), h,
    run_bind_of_ok (run_lift (Except.ok statements) config), run_set]

/-- A statement that the catalogue refuses changes nothing. -/
theorem run_addStatement_of_error {fault : Fault}
    (h : config.statements.insert statement.id statement = .error fault) :
    (addStatement statement).run config = (.error fault, config) := by
  rw [addStatement, run_bind_of_ok (run_get config), h,
    run_bind_of_error (run_lift (Except.error fault) config)]

/-- A registration that succeeds goes to the catalogue of statements. -/
theorem addStatement_ok (h : (addStatement statement).run config = (.ok (), config')) :
    ∃ statements, config.statements.insert statement.id statement = .ok statements ∧
      config' = { config with statements } := by
  rcases hinsert : config.statements.insert statement.id statement with fault | statements
  · rw [run_addStatement_of_error hinsert] at h
    cases h
  · rw [run_addStatement_of_ok hinsert] at h
    exact ⟨statements, rfl, (Prod.mk.inj h).2.symm⟩

/-- A registration of a result map that succeeds goes to the catalogue of
result maps. -/
theorem addResultMap_ok {resultMap : ResultMap}
    (h : (addResultMap resultMap).run config = (.ok (), config')) :
    ∃ resultMaps, config.resultMaps.insert resultMap.id resultMap = .ok resultMaps ∧
      config' = { config with resultMaps } := by
  rw [addResultMap, run_bind_of_ok (run_get config)] at h
  rcases hinsert : config.resultMaps.insert resultMap.id resultMap with fault | resultMaps <;>
    rw [hinsert] at h
  · cases h
  · exact ⟨resultMaps, rfl, (Prod.mk.inj h).2.symm⟩

/-! ## All registrations -/

/-- Every change of a configuration comes down to registrations of
statements. -/
theorem stable_registered (start : Configuration) :
    Stable fun config => ∃ registered, Registered start registered config where
  statement := by
    rintro config statement statements ⟨registered, h⟩ hid hinsert
    exact ⟨registered ++ [statement], h.statement hid (run_addStatement_of_ok hinsert)⟩
  resultMap := by
    rintro config _ resultMaps ⟨registered, h⟩ _ _
    exact ⟨registered, h.other rfl⟩
  loaded := by
    rintro config resource ⟨registered, h⟩
    exact ⟨registered, h.other (markLoaded_cases config resource fun _ => rfl)⟩
  types := by
    rintro config handlers aliases ⟨registered, h⟩
    exact ⟨registered, h.other rfl⟩
  known := by
    rintro config mapper ⟨registered, h⟩ _
    exact ⟨registered, h.other rfl⟩
  bound := by
    rintro config typeName known name bound ⟨registered, h⟩ _ _ _
    exact ⟨registered, h.other rfl⟩

/-- The catalogue of statements grows by what is registered. -/
theorem Registered.extends (h : Registered start registered config) :
    start.statements.Extends (Catalogue.entriesOf Statement.id registered) config.statements := by
  induction h with
  | start => exact .refl
  | statement _ hid hadd ih =>
      obtain ⟨statements, hinsert, rfl⟩ := addStatement_ok hadd
      exact ih.insert_value hid hinsert
  | other _ hsame ih =>
      rw [hsame]
      exact ih

/-- A statement can be registered unless its id is taken. In a catalogue that
was empty, the ids of the registered statements are taken, and no other full
ids. -/
theorem Registered.run_addStatement {collection : String} (h : Registered start registered config)
    (hstart : start.statements = { name := collection }) (hid : '.' ∈ statement.id.toList) :
    if statement.id ∈ registered.map Statement.id then
      (addStatement statement).run config = (.error (.duplicateId collection statement.id), config)
    else ∃ config', (addStatement statement).run config = (.ok (), config') := by
  have hextends := h.extends
  rw [hstart] at hextends
  have hname : config.statements.name = collection := hextends.name_eq
  have hget := hextends.get_of_empty statement.id
  unfold Catalogue.search at hget
  by_cases htaken : statement.id ∈ registered.map Statement.id
  · rw [if_pos htaken]
    obtain ⟨found, hmem, hfound⟩ := List.mem_map.mp htaken
    have hsome : (registered.find? fun s => s.id = statement.id).isSome = true :=
      List.find?_isSome.mpr ⟨found, hmem, by simpa using hfound⟩
    obtain ⟨earlier, hearlier⟩ := Option.isSome_iff_exists.mp hsome
    rw [hearlier] at hget
    have hcontains : config.statements.contains statement.id = true := by
      rw [← Bool.not_eq_false, Catalogue.contains_eq_false_iff, hget]
      simp
    rw [← hname]
    exact run_addStatement_of_error (Catalogue.insert_of_contains hcontains)
  · rw [if_neg htaken]
    have hnone : (registered.find? fun s => s.id = statement.id) = none := by
      rw [List.find?_eq_none]
      intro s hmem heq
      exact htaken (List.mem_map.mpr ⟨s, hmem, by simpa using heq⟩)
    rw [hnone] at hget
    simp only [if_pos hid] at hget
    have hfree : config.statements.contains statement.id = false := by
      rw [Catalogue.contains_eq_false_iff, hget, hname]
    obtain ⟨statements, hinsert⟩ := Catalogue.exists_insert_of_not_contains statement hfree
    exact ⟨_, run_addStatement_of_ok hinsert⟩

/-- A full id that finds a statement finds it for good. -/
theorem get_after_of_get {id : String} (changes : List Change) (hid : '.' ∈ id.toList)
    (h : config.statements.get id = .ok statement) :
    (config.after changes).statements.get id = .ok statement := by
  obtain ⟨registered, hregistered⟩ := (stable_registered config).after changes ⟨[], .start⟩
  exact hregistered.extends.get_of_get hid h

/-! ## The catalogue of statements after a history -/

section History

variable {settings : Settings} {types : TypeSystem} {changes : List Change}

/-- Whatever happened to a new configuration, its statements were registered. -/
theorem exists_registered
    (hconfig : config = ({ settings, types } : Configuration).after changes) :
    ∃ registered, Registered { settings, types } registered config := by
  have hstart : Registered { settings, types } [] { settings, types } := .start
  rw [hconfig]
  exact (stable_registered { settings, types }).after changes ⟨[], hstart⟩

/-- A full id finds the listed statement of that id, and nothing else. -/
theorem get_eq_ok_iff_mem
    (hconfig : config = ({ settings, types } : Configuration).after changes) {id : String}
    (hid : '.' ∈ id.toList) :
    config.statements.get id = .ok statement ↔
      statement ∈ config.statements.values ∧ statement.id = id := by
  obtain ⟨registered, hregistered⟩ := exists_registered hconfig
  have hextends := hregistered.extends
  rw [hextends.values_of_empty, hextends.get_eq_ok_iff_of_empty hid]

/-- Statements that are registered are listed behind those before. -/
theorem values_of_extends
    (hconfig : config = ({ settings, types } : Configuration).after changes)
    {statements : Catalogue Statement} {added : List Statement}
    (h : config.statements.Extends (Catalogue.entriesOf Statement.id added) statements) :
    statements.values = config.statements.values ++ added := by
  obtain ⟨registered, hregistered⟩ := exists_registered hconfig
  have hall := hregistered.extends.trans h
  rw [Catalogue.entriesOf, Catalogue.entriesOf, ← List.map_append] at hall
  rw [hregistered.extends.values_of_empty]
  exact Catalogue.Extends.values_of_empty hall

end History

/-- After any history of a new configuration, let the statements registered so
far be given in their order. Their ids are full and distinct. A name finds the
statement of that id, or else, without a dot, the only statement whose id ends
in it. The statements are listed in order. A statement with a full id can be
registered exactly if the id is not among theirs, and being refused changes
nothing. A full id that finds a statement finds it after any further history.
-/
theorem statements_after (settings : Settings) (types : TypeSystem) (changes : List Change) :
    let config := ({ settings, types } : Configuration).after changes
    ∃ registered, Registered { settings, types } registered config ∧
      (registered.map Statement.id).Nodup ∧
      (∀ statement ∈ registered, '.' ∈ statement.id.toList) ∧
      (∀ name, config.statements.get name =
        Catalogue.search "Mapped Statements collection" Statement.id registered name) ∧
      config.statements.values = registered ∧
      (∀ statement : Statement, '.' ∈ statement.id.toList →
        if statement.id ∈ registered.map Statement.id then
          (addStatement statement).run config =
            (.error (.duplicateId "Mapped Statements collection" statement.id), config)
        else ∃ config', (addStatement statement).run config = (.ok (), config')) ∧
      ∀ more id statement, '.' ∈ id.toList → config.statements.get id = .ok statement →
        (config.after more).statements.get id = .ok statement := by
  intro config
  obtain ⟨registered, h⟩ : ∃ registered, Registered { settings, types } registered config :=
    exists_registered rfl
  have hextends := h.extends
  have hkeys := Catalogue.keys_entriesOf Statement.id registered
  refine ⟨registered, h, ?_, ?_, hextends.get_of_empty, hextends.values_of_empty, ?_, ?_⟩
  · have hdistinct := hextends.distinct
    rwa [hkeys] at hdistinct
  · intro statement hmem
    have hdotted := hextends.dotted statement.id
    rw [hkeys] at hdotted
    exact hdotted (List.mem_map_of_mem hmem)
  · intro statement hid
    exact h.run_addStatement rfl hid
  · intro more id statement hid hget
    exact get_after_of_get more hid hget

/-- Two documents register `count`: each full id finds its statement, the short
id is ambiguous, and a third registration of `a.count` is refused. -/
theorem statements_after_two_namespaces :
    let select (id : String) : Statement :=
      { id, resource := "test", kind := .select, sql := { sql := "select 1", mappings := [] }
        parameterType := none, resultMaps := [] }
    let add (namespaceName : String) : Change :=
      .addStatement { resource := "test", namespaceName := some namespaceName } "count"
        { sql := "select 1", mappings := [] } .select none none none
    let config := ({} : Configuration).after [add "a", add "b"]
    config.statements.values = [select "a.count", select "b.count"] ∧
      config.statements.get "a.count" = .ok (select "a.count") ∧
      config.statements.get "count" =
        .error (.ambiguousId "Mapped Statements collection" "count") ∧
      (addStatement (select "a.count")).run config =
        (.error (.duplicateId "Mapped Statements collection" "a.count"), config) := by
  intro select add config
  obtain ⟨registered, -, -, -, hget, hvalues, hadd, -⟩ :=
    statements_after {} {} [add "a", add "b"]
  obtain rfl : registered = [select "a.count", select "b.count"] := by
    rw [← hvalues]
    rfl
  refine ⟨hvalues, ?_, ?_, ?_⟩
  · rw [hget]
    rfl
  · rw [hget]
    simp [Catalogue.search, Catalogue.EndsIn, select]
  · exact hadd (select "a.count") (by decide)

end Configuration

/-! ## Result maps that a statement has of its own -/

/-- What a result of the type is made up of: the elements of a list, and any
other result as a whole. -/
inductive ValueType.HasElement : ValueType → ValueType → Prop where
  | list (element : ValueType) : HasElement (.list element) element
  | whole {type : ValueType} (hlist : ∀ element, type ≠ .list element) : HasElement type type

theorem ValueType.hasElement_element (type : ValueType) : type.HasElement type.element := by
  cases type with
  | list element => exact .list element
  | _ => exact .whole nofun

theorem ValueType.HasElement.unique {type element element' : ValueType}
    (h : type.HasElement element) (h' : type.HasElement element') : element = element' := by
  cases h with
  | list =>
      cases h' with
      | list => rfl
      | whole hlist => exact absurd rfl (hlist _)
  | whole hlist =>
      cases h' with
      | list => exact absurd rfl (hlist _)
      | whole => rfl

/-- The result map is the one that a statement has of its own for results of the
type: called after the statement, for the elements of the type and without
columns. -/
structure ResultMap.IsInline (resultMap : ResultMap) (statementId : String)
    (resultType : ValueType) : Prop where
  id : resultMap.id = statementId ++ "-Inline"
  type : resultType.HasElement resultMap.type
  mappings : resultMap.mappings = []
  autoMapping : resultMap.autoMapping = none

theorem ResultMap.IsInline.of_element (statementId : String) (type : ValueType) :
    ResultMap.IsInline
      { id := Assistant.inlineId statementId, type := type.element, mappings := [] }
      statementId type where
  id := rfl
  type := type.hasElement_element
  mappings := rfl
  autoMapping := rfl

/-- A statement has one result map of its own for a type. -/
theorem ResultMap.IsInline.unique {resultMap resultMap' : ResultMap} {statementId : String}
    {resultType : ValueType} (h : resultMap.IsInline statementId resultType)
    (h' : resultMap'.IsInline statementId resultType) : resultMap = resultMap' := by
  obtain ⟨id, type, mappings, autoMapping⟩ := resultMap
  obtain ⟨id', type', mappings', autoMapping'⟩ := resultMap'
  obtain rfl : id = id' := h.id.trans h'.id.symm
  obtain rfl : type = type' := h.type.unique h'.type
  obtain rfl : mappings = mappings' := h.mappings.trans h'.mappings.symm
  obtain rfl : autoMapping = autoMapping' := h.autoMapping.trans h'.autoMapping.symm
  rfl

/-! ## Registering for a document -/

namespace Assistant

variable {assistant : Assistant} {name : String} {before after : Configuration}

/-- What the registration of a statement writes when it succeeds. -/
theorem addStatement_ok {sql : CompiledSql} {kind : StatementKind}
    {parameterType resultType : Option ValueType} {references : Option String}
    (h : (assistant.addStatement name sql kind parameterType references resultType).run before =
      (.ok (), after)) :
    ∃ id resultMaps statements,
      assistant.elementId name = .ok id ∧
      assistant.resultMapsOf before.resultMaps id kind references resultType = .ok resultMaps ∧
      before.statements.insert id
        { id, resource := assistant.resource, kind, sql, parameterType, resultMaps } =
          .ok statements ∧
      after = { before with statements } := by
  obtain ⟨id, hid, hrest⟩ := exists_of_run_bind_ok_of_keeps (fun _ => keeps_lift _) h
  obtain ⟨config, hget, hrest⟩ := exists_of_run_bind_ok_of_keeps (fun _ => keeps_get) hrest
  obtain rfl : before = config := Except.ok.inj (Prod.mk.inj hget).1
  obtain ⟨resultMaps, hmaps, hadd⟩ := exists_of_run_bind_ok_of_keeps (fun _ => keeps_lift _) hrest
  obtain ⟨statements, hinsert, hafter⟩ := Configuration.addStatement_ok hadd
  exact ⟨id, resultMaps, statements, (Prod.mk.inj hid).1, (Prod.mk.inj hmaps).1, hinsert, hafter⟩

/-- What the registration of a result map writes when it succeeds. -/
theorem addResultMap_ok {type : ValueType} {mappings : List ResultMapping}
    {autoMapping : Option Bool}
    (h : (assistant.addResultMap name type mappings autoMapping).run before = (.ok (), after)) :
    ∃ id resultMaps,
      assistant.elementId name = .ok id ∧
      before.resultMaps.insert id { id, type, mappings, autoMapping } = .ok resultMaps ∧
      after = { before with resultMaps } := by
  obtain ⟨id, hid, hadd⟩ := exists_of_run_bind_ok_of_keeps (fun _ => keeps_lift _) h
  obtain ⟨resultMaps, hinsert, hafter⟩ := Configuration.addResultMap_ok hadd
  exact ⟨id, resultMaps, (Prod.mk.inj hid).1, hinsert, hafter⟩

/-! ### The result maps of a statement -/

variable {resultMaps wider : Catalogue ResultMap} {statementId : String} {kind : StatementKind}
  {references : Option String} {resultType : Option ValueType}

/-- A reference finds a result map under a full id. -/
theorem referencedResultMap_ok {resultMap : ResultMap}
    (h : assistant.referencedResultMap resultMaps statementId name = .ok resultMap) :
    ∃ id, assistant.referenceId name = .ok id ∧ resultMaps.get id = .ok resultMap := by
  obtain ⟨id, hid, hfound⟩ := exists_of_bind_ok h
  refine ⟨id, hid, ?_⟩
  rcases hget : resultMaps.get id with fault | found <;> rw [hget] at hfound
  · cases hfound
  · exact hfound

/-- What a reference finds in a catalogue, it finds in every catalogue that
finds no less. -/
theorem referencedResultMap_of_keptBy {resultMap : ResultMap} (hkept : resultMaps.KeptBy wider)
    (h : assistant.referencedResultMap resultMaps statementId name = .ok resultMap) :
    assistant.referencedResultMap wider statementId name = .ok resultMap := by
  obtain ⟨id, hid, hget⟩ := referencedResultMap_ok h
  have hwider := hkept id resultMap (dot_mem_of_referenceId hid) hget
  unfold referencedResultMap
  simp only [hid, hwider, bind, Except.bind]
  rfl

/-- The result maps of a statement are its own one, for a select without
references, or are found under full ids. -/
theorem resultMapsOf_ok {maps : List ResultMap}
    (h : assistant.resultMapsOf resultMaps statementId kind references resultType = .ok maps) :
    ∀ resultMap ∈ maps,
      (references = none ∧ kind.isSelect = true ∧ ∃ type, resultType = some type ∧
        resultMap.IsInline statementId type) ∨
      ∃ id, '.' ∈ id.toList ∧ resultMaps.get id = .ok resultMap := by
  intro resultMap hmem
  unfold resultMapsOf at h
  rcases references with _ | list
  · rcases resultType with _ | type
    · cases h
      cases hmem
    · dsimp only at h
      split at h
      · next hselect =>
          cases h
          obtain rfl := List.mem_singleton.mp hmem
          exact .inl ⟨rfl, hselect, type, rfl, .of_element statementId type⟩
      · cases h
        cases hmem
  · obtain ⟨name, -, hfound⟩ := exists_of_mapM_ok h hmem
    obtain ⟨id, hid, hget⟩ := referencedResultMap_ok hfound
    exact .inr ⟨id, dot_mem_of_referenceId hid, hget⟩

/-- A statement has the same result maps with every catalogue that finds no
less. -/
theorem resultMapsOf_of_keptBy {maps : List ResultMap} (hkept : resultMaps.KeptBy wider)
    (h : assistant.resultMapsOf resultMaps statementId kind references resultType = .ok maps) :
    assistant.resultMapsOf wider statementId kind references resultType = .ok maps := by
  rcases references with _ | list
  · exact h
  · have hfound := mapM_eq_ok_iff.mp h
    exact mapM_eq_ok_iff.mpr (hfound.imp fun name _ => referencedResultMap_of_keptBy hkept)

end Assistant

end SqlMapper
