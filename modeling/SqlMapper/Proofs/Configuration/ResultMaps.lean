import SqlMapper.Proofs.Configuration.Loading

/-!
# The result maps of registered statements

A statement keeps copies of its result maps. Whatever is registered later, and
whatever is refused, a copy does not go stale: it is a map that the statement
has of its own and nothing else refers to, or it is the registered result map
of its id. The reason is that references are full ids. A full id finds what is
registered under it and nothing else, and it finds that for good.

## Main definitions

* `StatementRequest` — a statement as an assistant is asked to register it.
* `Configuration.Assembled` — the catalogues come from these requests and from
  requests for result maps.
* `StatementRequest.Inlines`, `Configuration.Answers` — a result map is the
  own one of a statement, or a registered one.

## Main results

* `Configuration.stableUnderChanges_assembled` — every change comes down to
  requests.
* `Configuration.Assembled.yields` — what the requests registered, as the
  configuration has it now.
* `Configuration.resultMaps_after` — the statements and their result maps after
  any history.
-/

namespace SqlMapper

/-! ## Requests -/

/-- A statement as an assistant is asked to register it. -/
structure StatementRequest where
  assistant : Assistant
  name : String
  sql : CompiledSql
  kind : StatementKind
  parameterType : Option ValueType
  references : Option String
  resultType : Option ValueType

/-- Asks the assistant. -/
def StatementRequest.run (request : StatementRequest) : Configure Unit :=
  request.assistant.addStatement request.name request.sql request.kind request.parameterType
    request.references request.resultType

/-- The result map is one that the statement has of its own, for the result type
of the request. Only selects without references have one. -/
structure StatementRequest.Inlines (request : StatementRequest) (statement : Statement)
    (resultMap : ResultMap) : Prop where
  references : request.references = none
  select : statement.kind = .select
  built : ∃ type, request.resultType = some type ∧ resultMap.IsInline statement.id type

namespace Configuration

/-- The result map is the one that is registered under its id, and that is a
full id and not the short id of anything registered. -/
structure Answers (config : Configuration) (resultMap : ResultMap) : Prop where
  found : config.resultMaps.get resultMap.id = .ok resultMap
  listed : resultMap.id ∈ config.resultMaps.ids
  full : '.' ∈ resultMap.id.toList
  unambiguous : ∀ id ∈ config.resultMaps.ids, Catalogue.shortId? id ≠ some resultMap.id

/-- From the start to the present, the catalogues changed by these requests for
statements, in this order, by requests for result maps, and by nothing else. -/
inductive Assembled (start : Configuration) : List StatementRequest → Configuration → Prop where
  | start : Assembled start [] start
  | statement {requests : List StatementRequest} {request : StatementRequest}
      {config config' : Configuration} (hassembled : Assembled start requests config)
      (hrun : request.run.run config = (.ok (), config')) :
      Assembled start (requests ++ [request]) config'
  | resultMap {requests : List StatementRequest} {assistant : Assistant} {name : String}
      {type : ValueType} {mappings : List ResultMapping} {autoMapping : Option Bool}
      {config config' : Configuration} (hassembled : Assembled start requests config)
      (hrun : (assistant.addResultMap name type mappings autoMapping).run config =
        (.ok (), config')) :
      Assembled start requests config'
  | other {requests : List StatementRequest} {config config' : Configuration}
      (hassembled : Assembled start requests config)
      (hstatements : config'.statements = config.statements)
      (hresultMaps : config'.resultMaps = config.resultMaps) : Assembled start requests config'

/-- Every change of a configuration comes down to requests. -/
theorem stableUnderChanges_assembled (start : Configuration) :
    StableUnderChanges fun config => ∃ requests, Assembled start requests config where
  statement := by
    rintro assistant name sql kind parameterType references resultType config ⟨requests, h⟩
    rcases hrun : (assistant.addStatement name sql kind parameterType references resultType).run
      config with ⟨fault | _, config'⟩
    · obtain rfl := assistant.allOrNothing_addStatement _ _ _ _ _ _ _ _ _ hrun
      exact ⟨requests, h⟩
    · let request : StatementRequest :=
        { assistant, name, sql, kind, parameterType, references, resultType }
      have hrequest : request.run.run config = (.ok (), config') := hrun
      exact ⟨_, h.statement hrequest⟩
  resultMap := by
    rintro assistant name type mappings autoMapping config ⟨requests, h⟩
    rcases hrun : (assistant.addResultMap name type mappings autoMapping).run config with
      ⟨fault | _, config'⟩
    · obtain rfl := assistant.allOrNothing_addResultMap _ _ _ _ _ _ _ hrun
      exact ⟨requests, h⟩
    · exact ⟨requests, h.resultMap hrun⟩
  loaded := by
    rintro config resource ⟨requests, h⟩
    refine ⟨requests, h.other ?_ ?_⟩
    · exact markLoaded_cases config resource fun _ => rfl
    · exact markLoaded_cases config resource fun _ => rfl
  types := by
    rintro config handlers aliases ⟨requests, h⟩
    exact ⟨requests, h.other rfl rfl⟩
  known := by
    rintro config mapper ⟨requests, h⟩ _
    exact ⟨requests, h.other rfl rfl⟩
  bound := by
    rintro config typeName known name bound ⟨requests, h⟩ _ _ _
    exact ⟨requests, h.other rfl rfl⟩

/-! ## What requests registered -/

end Configuration

/-- The request registered the statement: under the id of its name, and with
result maps that are its own or registered. -/
structure StatementRequest.Yields (request : StatementRequest) (resultMaps : Catalogue ResultMap)
    (statement : Statement) : Prop where
  id : request.assistant.elementId request.name = .ok statement.id
  kind : statement.kind = request.kind
  resultMaps : ∀ resultMap ∈ statement.resultMaps, request.Inlines statement resultMap ∨
    '.' ∈ resultMap.id.toList ∧ resultMaps.get resultMap.id = .ok resultMap

/-- A request has registered the same however many result maps there are
now. -/
theorem StatementRequest.Yields.keptBy {request : StatementRequest}
    {resultMaps wider : Catalogue ResultMap} {statement : Statement}
    (h : request.Yields resultMaps statement) (hkept : resultMaps.KeptBy wider) :
    request.Yields wider statement where
  id := h.id
  kind := h.kind
  resultMaps resultMap hmem :=
    (h.resultMaps resultMap hmem).imp_right fun ⟨hdot, hget⟩ => ⟨hdot, hkept _ _ hdot hget⟩

namespace Configuration

variable {config config' : Configuration} {collection : String}

/-- A request that succeeds adds a statement, where result maps are registered
under their own ids. -/
theorem yields_of_run {request : StatementRequest} {registered : List ResultMap}
    (hresultMaps : ({ name := collection } : Catalogue ResultMap).Extends
      (Catalogue.entriesOf ResultMap.id registered) config.resultMaps)
    (hrun : request.run.run config = (.ok (), config')) :
    ∃ statement, request.Yields config.resultMaps statement ∧ '.' ∈ statement.id.toList ∧
      config.statements.insert statement.id statement = .ok config'.statements ∧
      config'.resultMaps = config.resultMaps := by
  obtain ⟨id, maps, statements, hid, hmaps, hinsert, rfl⟩ := Assistant.addStatement_ok hrun
  let statement : Statement :=
    { id, resource := request.assistant.resource, kind := request.kind, sql := request.sql
      parameterType := request.parameterType, resultMaps := maps }
  refine ⟨statement, ⟨hid, rfl, ?_⟩, Assistant.dot_mem_of_elementId hid, hinsert, rfl⟩
  intro resultMap hmem
  rcases Assistant.resultMapsOf_ok hmaps resultMap hmem with
    ⟨hreferences, hselect, hbuilt⟩ | ⟨key, hkey, hget⟩
  · refine .inl ⟨hreferences, ?_, hbuilt⟩
    simpa [StatementKind.isSelect] using hselect
  · obtain ⟨-, rfl⟩ := (hresultMaps.get_eq_ok_iff_of_empty hkey).mp hget
    exact .inr ⟨hkey, hget⟩

/-- The catalogues of a configuration that was new, as requests made them: the
statements in the order of their requests, and result maps under their own
ids. -/
theorem Assembled.yields {settings : Settings} {types : TypeSystem}
    {requests : List StatementRequest} (h : Assembled { settings, types } requests config) :
    ∃ statements resultMaps,
      ({ name := "Mapped Statements collection" } : Catalogue Statement).Extends
        (Catalogue.entriesOf Statement.id statements) config.statements ∧
      ({ name := "Result Maps collection" } : Catalogue ResultMap).Extends
        (Catalogue.entriesOf ResultMap.id resultMaps) config.resultMaps ∧
      List.Forall₂ (fun request statement =>
        StatementRequest.Yields request config.resultMaps statement) requests statements := by
  induction h with
  | start => exact ⟨[], [], .refl, .refl, .nil⟩
  | statement _ hrun ih =>
      obtain ⟨statements, resultMaps, hstatements, hresultMaps, hyields⟩ := ih
      obtain ⟨statement, hyield, hid, hinsert, hsame⟩ := yields_of_run hresultMaps hrun
      refine ⟨statements ++ [statement], resultMaps, ?_, ?_, ?_⟩
      · exact hstatements.insert_value hid hinsert
      · rwa [hsame]
      · rw [hsame]
        exact List.rel_append hyields (.cons hyield .nil)
  | @resultMap _ assistant name type mappings autoMapping config config' _ hrun ih =>
      obtain ⟨statements, resultMaps, hstatements, hresultMaps, hyields⟩ := ih
      obtain ⟨id, after, hid, hinsert, rfl⟩ := Assistant.addResultMap_ok hrun
      let resultMap : ResultMap := { id, type, mappings, autoMapping }
      have hdot := Assistant.dot_mem_of_elementId hid
      have hkept := (Catalogue.Extends.insert .refl hdot hinsert).keptBy
      refine ⟨statements, resultMaps ++ [resultMap], hstatements, ?_, ?_⟩
      · exact hresultMaps.insert_value hdot hinsert
      · exact hyields.imp fun request statement hyield => hyield.keptBy hkept
  | other _ hstatements hresultMaps ih =>
      rw [hstatements, hresultMaps]
      exact ih

/-- In a configuration that was new a full id answers with a registered result
map. -/
theorem answers_of_get {registered : List ResultMap} {resultMap : ResultMap}
    (hextends : ({ name := collection } : Catalogue ResultMap).Extends
      (Catalogue.entriesOf ResultMap.id registered) config.resultMaps)
    (hdot : '.' ∈ resultMap.id.toList)
    (hget : config.resultMaps.get resultMap.id = .ok resultMap) : config.Answers resultMap where
  found := hget
  listed := by
    obtain ⟨hmem, -⟩ := (hextends.get_eq_ok_iff_of_empty hdot).mp hget
    rw [hextends.ids_eq, Catalogue.keys_entriesOf]
    exact List.mem_append_right _ (List.mem_map_of_mem hmem)
  full := hdot
  unambiguous _ _ hshort := Catalogue.not_mem_of_shortId hshort hdot

/-- After any history of a new configuration, every listed statement is found
under its own id. The statements come from requests, one each and in order, and
are called by the names asked for. Every result map of a statement is one of its
own, called after it, without columns and of the element type of the result type,
which only a select without references has; or it is the result map that is
registered under its id now, a full id that is not the short id of any other. -/
theorem resultMaps_after (settings : Settings) (types : TypeSystem) (changes : List Change) :
    let config := ({ settings, types } : Configuration).after changes
    config.statements.ids = config.statements.values.map Statement.id ∧
      (∀ statement ∈ config.statements.values,
        config.statements.get statement.id = .ok statement) ∧
      (∃ requests, Assembled { settings, types } requests config) ∧
      ∀ requests, Assembled { settings, types } requests config →
        List.Forall₂ (fun request statement =>
          request.assistant.elementId request.name = .ok statement.id ∧
            statement.kind = request.kind ∧
            ∀ resultMap ∈ statement.resultMaps,
              request.Inlines statement resultMap ∨ config.Answers resultMap)
          requests config.statements.values := by
  intro config
  have hstart : Assembled { settings, types } [] { settings, types } := .start
  have hassembled : ∃ requests, Assembled { settings, types } requests config :=
    (stableUnderChanges_assembled { settings, types }).after changes ⟨[], hstart⟩
  refine ⟨?_, ?_, hassembled, ?_⟩
  · obtain ⟨requests, h⟩ := hassembled
    obtain ⟨statements, -, hstatements, -, -⟩ := h.yields
    rw [hstatements.values_of_empty, hstatements.ids_eq, Catalogue.keys_entriesOf]
    rfl
  · obtain ⟨requests, h⟩ := hassembled
    obtain ⟨statements, -, hstatements, -, -⟩ := h.yields
    rw [hstatements.values_of_empty]
    exact fun statement hmem => hstatements.get_of_mem hmem
  · intro requests h
    obtain ⟨statements, resultMaps, hstatements, hresultMaps, hyields⟩ := h.yields
    rw [hstatements.values_of_empty]
    refine hyields.imp fun request statement hyield => ⟨hyield.id, hyield.kind, ?_⟩
    intro resultMap hmem
    rcases hyield.resultMaps resultMap hmem with hown | ⟨hdot, hget⟩
    · exact .inl hown
    · exact .inr (answers_of_get hresultMaps hdot hget)

/-- A statement that refers to a result map of another document. -/
def allNames : StatementRequest where
  assistant := { resource := "people", namespaceName := some "people" }
  name := "all"
  sql := { sql := "select name", mappings := [] }
  kind := .select
  parameterType := none
  references := some " base.names "
  resultType := none

/-- A statement that refers to none and has a list as its result. -/
def someNames : StatementRequest where
  assistant := { resource := "people", namespaceName := some "people" }
  name := "some"
  sql := { sql := "select name", mappings := [] }
  kind := .select
  parameterType := none
  references := none
  resultType := some (.list .string)

/-- The one statement has the result map that is registered under the full id.
The other one has one of its own, which is not registered. -/
theorem resultMaps_after_two_requests :
    let names : ResultMap := { id := "base.names", type := .string, mappings := [] }
    let own : ResultMap := { id := "people.some-Inline", type := .string, mappings := [] }
    let asked (request : StatementRequest) : Change :=
      .addStatement request.assistant request.name request.sql request.kind
        request.parameterType request.references request.resultType
    let config := ({} : Configuration).after [
      .addResultMap { resource := "base", namespaceName := some "base" } "names" .string [] none,
      asked allNames, asked someNames]
    config.statements.values.map Statement.resultMaps = [[names], [own]] ∧
      config.Answers names ∧ config.resultMaps.ids = ["base.names"] ∧
      ∃ statement ∈ config.statements.values,
        statement.id = "people.some" ∧ someNames.Inlines statement own := by
  intro names own asked config
  let base : Assistant := { resource := "base", namespaceName := some "base" }
  let changes : List Change :=
    [.addResultMap base "names" .string [] none, asked allNames, asked someNames]
  let first := ({} : Configuration).after (changes.take 1)
  let second := ({} : Configuration).after (changes.take 2)
  have hfirst : (base.addResultMap "names" .string [] none).run {} = (.ok (), first) := rfl
  obtain ⟨_, hall⟩ : ∃ done, (allNames.run.run first).1 = .ok done :=
    exists_ok_of_toBool (by decide +kernel)
  obtain ⟨_, hsome⟩ : ∃ done, (someNames.run.run second).1 = .ok done :=
    exists_ok_of_toBool (by decide +kernel)
  have hassembled : Assembled {} [allNames, someNames] config :=
    Assembled.statement
      (Assembled.statement (Assembled.start.resultMap hfirst) (Prod.ext hall rfl))
      (Prod.ext hsome rfl)
  have hmaps : config.statements.values.map Statement.resultMaps = [[names], [own]] := rfl
  have hids : config.resultMaps.ids = ["base.names"] := rfl
  obtain ⟨-, -, -, hrequests⟩ := resultMaps_after {} {} changes
  obtain ⟨one, _, ⟨-, -, hone⟩, hrest, hvalues⟩ :=
    List.forall₂_cons_left_iff.mp (hrequests [allNames, someNames] hassembled)
  obtain ⟨other, _, ⟨hid, -, hother⟩, hnil, rfl⟩ := List.forall₂_cons_left_iff.mp hrest
  obtain rfl := List.forall₂_nil_left_iff.mp hnil
  have hvalues : config.statements.values = [one, other] := hvalues
  obtain ⟨honemaps, hothermaps⟩ : one.resultMaps = [names] ∧ other.resultMaps = [own] := by
    simpa [hvalues] using hmaps
  refine ⟨hmaps, ?_, hids, other, by simp [hvalues], (Except.ok.inj hid).symm, ?_⟩
  · rcases hone names (honemaps ▸ List.mem_singleton_self _) with hown | hanswers
    · exact nomatch hown.references
    · exact hanswers
  · rcases hother own (hothermaps ▸ List.mem_singleton_self _) with hown | hanswers
    · exact hown
    · exact absurd (hids ▸ hanswers.listed) (by decide)

end Configuration

end SqlMapper
