import Mathlib.Data.List.Forall2
import SqlMapper.Proofs.Configuration.Registration

/-!
# Loading a document

A mapper file and a declared mapper are both documents: after a look at the
document as a whole, its elements are registered one after the other. An
element is registered as a whole or not at all. A document is not: if an
element is refused, the elements before it stay registered, and the ones
behind it are not looked at. The document then does not count as loaded and
its mapper stays unknown.

## Main definitions

* `Element`, `Element.register` — the elements of documents.
* `Document`, `Document.read`, `Document.load` — the documents.
* `Registers` — these elements were registered and nothing else was changed.

## Main results

* `Element.allOrNothing_register` — a refused element leaves nothing behind.
* `Registers.of_run` — what a list of elements registers.
* `Document.load_error` — what a document that is refused leaves behind.
-/

namespace SqlMapper

/-! ## Elements -/

/-- An element of a document. -/
inductive Element where
  | resultMap (entry : ResultMapEntry)
  | statement (entry : StatementEntry)
  | method (declared : MethodDeclaration)

namespace Element

/-- Registers an element. -/
def register (assistant : Assistant) : Element → Configure Unit
  | resultMap entry => MapperFile.loadResultMap assistant entry
  | statement entry => MapperFile.loadStatement assistant entry
  | method declared => MapperDeclaration.registerMethod assistant declared

/-- The name of the statement that an element declares. -/
def statementName? : Element → Option String
  | resultMap _ => none
  | statement entry => if StatementKind.ofName entry.kind = .unknown then none else some entry.id
  | method declared => declared.recognizedSql?.map fun _ => declared.name

/-- The name of the result map that an element declares. -/
def resultMapName? : Element → Option String
  | resultMap entry => some entry.id
  | statement _ => none
  | method _ => none

end Element

/-! ## An element is registered as a whole or not at all -/

namespace Assistant

variable (assistant : Assistant)

theorem allOrNothing_addStatement (name : String) (sql : CompiledSql) (kind : StatementKind)
    (parameterType : Option ValueType) (references : Option String)
    (resultType : Option ValueType) :
    AllOrNothing (assistant.addStatement name sql kind parameterType references resultType) := by
  refine .bind (fun _ => keeps_lift _) fun id => ?_
  refine .bind (fun _ => keeps_get) fun config => ?_
  refine .bind (fun _ => keeps_lift _) fun resultMaps => ?_
  refine .bind (fun _ => keeps_get) fun config => ?_
  exact .bind (fun _ => keeps_lift _) fun statements => allOrNothing_set _

theorem allOrNothing_addResultMap (name : String) (type : ValueType)
    (mappings : List ResultMapping) (autoMapping : Option Bool) :
    AllOrNothing (assistant.addResultMap name type mappings autoMapping) := by
  refine .bind (fun _ => keeps_lift _) fun id => ?_
  refine .bind (fun _ => keeps_get) fun config => ?_
  exact .bind (fun _ => keeps_lift _) fun resultMaps => allOrNothing_set _

theorem keeps_compile {P : Configuration → Prop} (template : String)
    (parameterType : Option ValueType) : Keeps P (compile template parameterType) :=
  keeps_get.bind fun _ => keeps_lift _

end Assistant

/-- An element that is refused leaves nothing behind. -/
theorem Element.allOrNothing_register (assistant : Assistant) (element : Element) :
    AllOrNothing (element.register assistant) := by
  cases element with
  | resultMap entry =>
      refine .bind (fun _ => keeps_get) fun config => ?_
      refine .bind (fun _ => keeps_lift _) fun type => ?_
      refine .bind (fun _ => Keeps.mapM fun mapping _ => keeps_lift _) fun mappings => ?_
      exact assistant.allOrNothing_addResultMap _ _ _ _
  | statement entry =>
      unfold register MapperFile.loadStatement
      dsimp only
      split
      · exact .of_keeps fun _ => keeps_pure _
      · refine .bind (fun _ => keeps_get) fun config => ?_
        refine .bind (fun _ => keeps_lift _) fun parameterType => ?_
        refine .bind (fun _ => keeps_lift _) fun resultType => ?_
        refine .bind (fun _ => Assistant.keeps_compile _ _) fun sql => ?_
        exact assistant.allOrNothing_addStatement _ _ _ _ _ _
  | method declared =>
      unfold register MapperDeclaration.registerMethod
      dsimp only
      split
      · exact .of_keeps fun _ => keeps_pure _
      · refine .bind (fun _ => Assistant.keeps_compile _ _) fun sql => ?_
        exact assistant.allOrNothing_addStatement _ _ _ _ _ _

/-! ## What elements register -/

/-- The elements were registered: statements and result maps under the ids of
the names that they declare, in order, and nothing else was changed. -/
structure Registers (assistant : Assistant) (elements : List Element)
    (statements : List Statement) (resultMaps : List ResultMap)
    (before after : Configuration) : Prop where
  statementIds : List.Forall₂ (fun name (statement : Statement) =>
    assistant.elementId name = .ok statement.id)
    (elements.filterMap Element.statementName?) statements
  resultMapIds : List.Forall₂ (fun name (resultMap : ResultMap) =>
    assistant.elementId name = .ok resultMap.id)
    (elements.filterMap Element.resultMapName?) resultMaps
  statements : before.statements.Extends (Catalogue.entriesOf Statement.id statements)
    after.statements
  resultMaps : before.resultMaps.Extends (Catalogue.entriesOf ResultMap.id resultMaps)
    after.resultMaps
  others : after = { before with statements := after.statements, resultMaps := after.resultMaps }

namespace Registers

variable {assistant : Assistant} {elements others : List Element} {element : Element}
  {statements statements' : List Statement} {resultMaps resultMaps' : List ResultMap}
  {before between after : Configuration}

theorem nil : Registers assistant [] [] [] before before where
  statementIds := .nil
  resultMapIds := .nil
  statements := .refl
  resultMaps := .refl
  others := rfl

/-- First some elements and then some others. -/
theorem append (h : Registers assistant elements statements resultMaps before between)
    (h' : Registers assistant others statements' resultMaps' between after) :
    Registers assistant (elements ++ others) (statements ++ statements')
      (resultMaps ++ resultMaps') before after where
  statementIds := by
    rw [List.filterMap_append]
    exact List.rel_append h.statementIds h'.statementIds
  resultMapIds := by
    rw [List.filterMap_append]
    exact List.rel_append h.resultMapIds h'.resultMapIds
  statements := by
    rw [Catalogue.entriesOf, List.map_append]
    exact h.statements.trans h'.statements
  resultMaps := by
    rw [Catalogue.entriesOf, List.map_append]
    exact h.resultMaps.trans h'.resultMaps
  others := by
    rw [h'.others, h.others]

/-- Elements that declare nothing change nothing. -/
theorem eq_of_nil (h : Registers assistant elements statements resultMaps before after)
    (hstatements : elements.filterMap Element.statementName? = [])
    (hresultMaps : elements.filterMap Element.resultMapName? = []) : after = before := by
  obtain ⟨hstatementIds, hresultMapIds, hs, hr, hothers⟩ := h
  rw [hstatements] at hstatementIds
  rw [hresultMaps] at hresultMapIds
  cases hstatementIds
  cases hresultMapIds
  rw [hothers, hs.eq_of_nil, hr.eq_of_nil]

/-! ### One element -/

/-- An element that declares nothing. -/
theorem nothing (hstatement : element.statementName? = none)
    (hresultMap : element.resultMapName? = none) :
    Registers assistant [element] [] [] before before where
  statementIds := by simp [hstatement]
  resultMapIds := by simp [hresultMap]
  statements := .refl
  resultMaps := .refl
  others := rfl

/-- An element that declares a statement. -/
theorem statement {name : String} {sql : CompiledSql} {kind : StatementKind}
    {parameterType resultType : Option ValueType} {references : Option String}
    (hstatement : element.statementName? = some name) (hresultMap : element.resultMapName? = none)
    (hadd : (assistant.addStatement name sql kind parameterType references resultType).run before =
      (.ok (), after)) :
    ∃ statement, Registers assistant [element] [statement] [] before after := by
  obtain ⟨id, maps, statements, hid, -, hinsert, rfl⟩ := Assistant.addStatement_ok hadd
  have hdot := Assistant.dot_mem_of_elementId hid
  refine ⟨{ id, resource := assistant.resource, kind, sql, parameterType, resultMaps := maps },
    ?_, ?_, .insert .refl hdot hinsert, .refl, rfl⟩
  · simpa [hstatement] using hid
  · simp [hresultMap]

/-- An element that declares a result map. -/
theorem resultMap {name : String} {type : ValueType} {mappings : List ResultMapping}
    {autoMapping : Option Bool} (hstatement : element.statementName? = none)
    (hresultMap : element.resultMapName? = some name)
    (hadd : (assistant.addResultMap name type mappings autoMapping).run before = (.ok (), after)) :
    ∃ resultMap, Registers assistant [element] [] [resultMap] before after := by
  obtain ⟨id, resultMaps, hid, hinsert, rfl⟩ := Assistant.addResultMap_ok hadd
  have hdot := Assistant.dot_mem_of_elementId hid
  refine ⟨{ id, type, mappings, autoMapping }, ?_, ?_, .refl, .insert .refl hdot hinsert, rfl⟩
  · simp [hstatement]
  · simpa [hresultMap] using hid

/-- What an element registers. -/
theorem of_run_register (h : (element.register assistant).run before = (.ok (), after)) :
    ∃ statements resultMaps, Registers assistant [element] statements resultMaps before after := by
  cases element with
  | resultMap entry =>
      unfold Element.register MapperFile.loadResultMap at h
      obtain ⟨config, -, htypes⟩ := exists_of_run_bind_ok_of_keeps (fun _ => keeps_get) h
      obtain ⟨type, -, hmappings⟩ :=
        exists_of_run_bind_ok_of_keeps (fun _ => keeps_lift _) htypes
      obtain ⟨mappings, -, hadd⟩ := exists_of_run_bind_ok_of_keeps
        (fun _ => Keeps.mapM fun mapping _ => keeps_lift _) hmappings
      obtain ⟨added, hadded⟩ :
          ∃ added, Registers assistant [.resultMap entry] [] [added] before after :=
        resultMap rfl rfl hadd
      exact ⟨[], [added], hadded⟩
  | statement entry =>
      unfold Element.register MapperFile.loadStatement at h
      dsimp only at h
      split at h
      · next hkind =>
          have hname : (Element.statement entry).statementName? = none := by
            simp [Element.statementName?, hkind]
          cases h
          exact ⟨[], [], nothing hname rfl⟩
      · next hkind =>
          have hname : (Element.statement entry).statementName? = some entry.id := by
            simp [Element.statementName?, hkind]
          obtain ⟨config, -, hparameter⟩ := exists_of_run_bind_ok_of_keeps (fun _ => keeps_get) h
          obtain ⟨parameterType, -, hresult⟩ :=
            exists_of_run_bind_ok_of_keeps (fun _ => keeps_lift _) hparameter
          obtain ⟨resultType, -, hsql⟩ :=
            exists_of_run_bind_ok_of_keeps (fun _ => keeps_lift _) hresult
          obtain ⟨sql, -, hadd⟩ :=
            exists_of_run_bind_ok_of_keeps (fun _ => Assistant.keeps_compile _ _) hsql
          obtain ⟨added, hadded⟩ := statement hname rfl hadd
          exact ⟨[added], [], hadded⟩
  | method declared =>
      unfold Element.register MapperDeclaration.registerMethod at h
      dsimp only at h
      split at h
      · next hsql =>
          have hname : (Element.method declared).statementName? = none := by
            simp [Element.statementName?, hsql]
          cases h
          exact ⟨[], [], nothing hname rfl⟩
      · next hsql =>
          have hname : (Element.method declared).statementName? = some declared.name := by
            simp [Element.statementName?, hsql]
          obtain ⟨sql, -, hadd⟩ :=
            exists_of_run_bind_ok_of_keeps (fun _ => Assistant.keeps_compile _ _) h
          obtain ⟨added, hadded⟩ := statement hname rfl hadd
          exact ⟨[added], [], hadded⟩

/-! ### All elements -/

/-- What a list of elements registers. -/
theorem of_run (h : (elements.forM (Element.register assistant)).run before = (.ok (), after)) :
    ∃ statements resultMaps, Registers assistant elements statements resultMaps before after := by
  induction elements generalizing before with
  | nil =>
      cases h
      exact ⟨[], [], nil⟩
  | cons element elements ih =>
      obtain ⟨_, between, hfirst, hrest⟩ :=
        exists_of_run_bind_ok (x := element.register assistant) h
      obtain ⟨statements, resultMaps, hfirst⟩ := of_run_register hfirst
      obtain ⟨statements', resultMaps', hrest⟩ := ih hrest
      exact ⟨statements ++ statements', resultMaps ++ resultMaps', hfirst.append hrest⟩

end Registers

/-! ## Documents -/

/-- A document: a mapper file with its content, or a declared mapper. -/
inductive Document where
  | file (content resource : String)
  | mapper (declaration : MapperDeclaration)

/-- The elements of a mapper file: its result maps and then its statements. -/
def MapperFile.elements (file : MapperFile) : List Element :=
  file.resultMaps.map .resultMap ++ file.statements.map .statement

namespace Document

/-- Loads a document. -/
def load : Document → Configure Unit
  | file content resource => Configuration.loadMapper content resource
  | mapper declaration => declaration.register

/-- The look at a document as a whole: where its elements are registered, and
the elements. -/
def read (config : Configuration) : Document → Except Fault (Assistant × List Element)
  | file content resource => do
      let file ← MapperFile.parse content resource
      let assistant ← Assistant.enter { resource } file.namespaceName
      return (assistant, file.elements)
  | mapper declaration =>
      if config.hasMapper declaration.typeName then
        throw (.binding (.mapperKnown declaration.typeName))
      else
        match declaration.duplicateMethod? with
        | some name =>
            throw (.duplicateId "Mapped Statements collection" (declaration.statementId name))
        | none => do
            let assistant ←
              Assistant.enter { resource := declaration.resource } declaration.namespaceName
            return (assistant, declaration.methods.map .method)

end Document

/-! ## Documents that are refused -/

variable {assistant : Assistant} {before after : Configuration} {fault : Fault}

/-- Registering elements one after the other stops at the first that is
refused. The elements before it are registered, and nothing else is. -/
theorem Element.run_forM_error {elements : List Element} {f : Configuration → Configuration}
    (h : (do elements.forM (register assistant); modify f : Configure Unit).run before =
      (.error fault, after)) :
    ∃ registered failing rest statements resultMaps, elements = registered ++ failing :: rest ∧
      (failing.register assistant).run after = (.error fault, after) ∧
      Registers assistant registered statements resultMaps before after := by
  rcases run_bind_error_cases h with h | ⟨_, _, _, hmodify⟩
  · obtain ⟨registered, failing, rest, between, helements, hregistered, hfailing⟩ :=
      exists_of_run_forM_error h
    obtain rfl := failing.allOrNothing_register assistant _ _ _ hfailing
    obtain ⟨statements, resultMaps, hregisters⟩ := Registers.of_run hregistered
    exact ⟨registered, failing, rest, statements, resultMaps, helements, hfailing, hregisters⟩
  · cases hmodify

/-- A mapper file registers its elements one after the other. -/
theorem MapperFile.forM_elements (file : MapperFile) :
    file.elements.forM (Element.register assistant) = (do
      file.resultMaps.forM (loadResultMap assistant)
      file.statements.forM (loadStatement assistant)) := by
  rw [elements, List.forM_eq_forM, List.forM_append, List.forM_map, List.forM_map]
  rfl

theorem MapperDeclaration.forM_methods (mapper : MapperDeclaration) :
    (mapper.methods.map Element.method).forM (Element.register assistant) =
      mapper.methods.forM (registerMethod assistant) := by
  rw [List.forM_eq_forM, List.forM_map]
  rfl

namespace Document

variable {document : Document}

/-- Where a mapper file stops that is refused: at the look at the whole, which
writes nothing, or at one of its elements. -/
private theorem file_error_cases {content resource : String}
    (h : (load (file content resource)).run before = (.error fault, after)) :
    (file content resource).read before = .error fault ∧ after = before ∨
      ∃ assistant elements f, (file content resource).read before = .ok (assistant, elements) ∧
        (do elements.forM (Element.register assistant); modify f : Configure Unit).run before =
          (.error fault, after) := by
  rw [read]
  rcases run_lift_bind_error_cases h with ⟨hparse, rfl⟩ | ⟨file, hparse, hload⟩
  · rw [hparse]
    exact .inl ⟨rfl, rfl⟩
  · rw [hparse]
    rw [MapperFile.load, run_bind_of_ok (run_get before)] at hload
    split at hload
    · cases hload
    · rcases run_lift_bind_error_cases hload with ⟨henter, rfl⟩ | ⟨assistant, henter, hrest⟩
      · refine .inl ⟨?_, rfl⟩
        show Assistant.enter { resource } file.namespaceName >>= _ = _
        rw [henter]
        rfl
      · refine .inr ⟨assistant, file.elements, fun config => config.markLoaded resource, ?_, ?_⟩
        · show Assistant.enter { resource } file.namespaceName >>= _ = _
          rw [henter]
          rfl
        · rw [file.forM_elements, bind_assoc]
          exact hrest

/-- The same for a declared mapper. -/
private theorem mapper_error_cases {declaration : MapperDeclaration}
    (h : (load (mapper declaration)).run before = (.error fault, after)) :
    (mapper declaration).read before = .error fault ∧ after = before ∨
      ∃ assistant elements f, (mapper declaration).read before = .ok (assistant, elements) ∧
        (do elements.forM (Element.register assistant); modify f : Configure Unit).run before =
          (.error fault, after) := by
  rw [load, MapperDeclaration.register, run_bind_of_ok (run_get before)] at h
  rw [read]
  split at h
  · next hknown =>
      cases h
      exact .inl ⟨if_pos hknown, rfl⟩
  · next hknown =>
      rw [if_neg hknown]
      rcases run_bind_error_cases h with hstatements | ⟨_, _, _, hmodify⟩
      · rw [MapperDeclaration.registerStatements, run_bind_of_ok (run_get before)] at hstatements
        split at hstatements
        · cases hstatements
        · rcases hduplicate : declaration.duplicateMethod? with _ | name <;>
            rw [hduplicate] at hstatements <;> dsimp only at hstatements ⊢
          · rcases run_lift_bind_error_cases hstatements with
              ⟨henter, rfl⟩ | ⟨assistant, henter, hrest⟩
            · rw [henter]
              exact .inl ⟨rfl, rfl⟩
            · refine .inr ⟨assistant, declaration.methods.map .method,
                fun config => config.markLoaded declaration.resource, ?_, ?_⟩
              · rw [henter]
                rfl
              · rw [declaration.forM_methods]
                exact hrest
          · cases hstatements
            exact .inl ⟨rfl, rfl⟩
      · cases hmodify

/-- A document that is refused does not count as loaded and makes no mapper
known. If it is refused as a whole, nothing is changed. Otherwise it is
refused at one of its elements, which leaves nothing behind: the elements
before it are registered and nothing else is, so that the listed ids grow by
theirs and every name finds what it finds with their entries added. -/
theorem load_error (h : document.load.run before = (.error fault, after)) :
    after.loaded = before.loaded ∧ after.mappers = before.mappers ∧
      (document.read before = .error fault ∧ after = before ∨
        ∃ assistant registered failing rest statements resultMaps,
          document.read before = .ok (assistant, registered ++ failing :: rest) ∧
          (failing.register assistant).run after = (.error fault, after) ∧
          Registers assistant registered statements resultMaps before after ∧
          (registered.filterMap Element.statementName? = [] →
            registered.filterMap Element.resultMapName? = [] → after = before) ∧
          after.statements.ids = before.statements.ids ++ statements.map Statement.id ∧
          (∀ name, after.statements.get name =
            before.statements.lookUp (Catalogue.entriesOf Statement.id statements) name) ∧
          after.resultMaps.ids = before.resultMaps.ids ++ resultMaps.map ResultMap.id ∧
          ∀ name, after.resultMaps.get name =
            before.resultMaps.lookUp (Catalogue.entriesOf ResultMap.id resultMaps) name) := by
  have hcases : document.read before = .error fault ∧ after = before ∨
      ∃ assistant elements f, document.read before = .ok (assistant, elements) ∧
        (do elements.forM (Element.register assistant); modify f : Configure Unit).run before =
          (.error fault, after) := by
    cases document with
    | file content resource => exact file_error_cases h
    | mapper declaration => exact mapper_error_cases h
  rcases hcases with ⟨hread, rfl⟩ | ⟨assistant, elements, f, hread, hrun⟩
  · exact ⟨rfl, rfl, .inl ⟨hread, rfl⟩⟩
  · obtain ⟨registered, failing, rest, statements, resultMaps, rfl, hfailing, hregisters⟩ :=
      Element.run_forM_error hrun
    have hloaded : after.loaded = before.loaded := by rw [hregisters.others]
    have hmappers : after.mappers = before.mappers := by rw [hregisters.others]
    refine ⟨hloaded, hmappers, .inr ⟨assistant, registered, failing, rest, statements, resultMaps,
      hread, hfailing, hregisters, hregisters.eq_of_nil, ?_, hregisters.statements.get_eq, ?_,
      hregisters.resultMaps.get_eq⟩⟩
    · rw [hregisters.statements.ids_eq, Catalogue.keys_entriesOf]
    · rw [hregisters.resultMaps.ids_eq, Catalogue.keys_entriesOf]

/-! ### Documents with an element that is refused -/

/-- A mapper file whose second statement has a result type that nothing stands
for. -/
def fileWithUnknownAlias : Document :=
  .file ("namespace='m'\n[[statement]]\nid='a'\nkind='select'\nsql=''\n" ++
    "[[statement]]\nid='b'\nkind='select'\nsql=''\nresult_type='T'") "m.toml"

/-- A mapper whose second method refers to a result map that is not
registered. -/
def mapperWithUnknownResultMap : Document :=
  .mapper { typeName := "M", namespaceName := "m", methods := [
    { name := "a", sql := some { kind := .select, text := "select 1" } },
    { name := "b", sql := some { kind := .select, text := "select 2" }, resultMap := some "rm" }] }

/-- The mapper is refused at its second method, and the statement of the first
one is registered. -/
theorem load_error_second_method :
    ∃ fault after, mapperWithUnknownResultMap.load.run {} = (.error fault, after) ∧
      after.loaded = [] ∧ after.mappers.keys = [] ∧
      ∃ statements : List Statement, statements.map Statement.id = ["m.a"] ∧
        after.statements.ids = ["m.a"] ∧
        ∀ name, after.statements.get name = Catalogue.lookUp { name := "Mapped Statements collection" }
          (Catalogue.entriesOf Statement.id statements) name := by
  have hids : (mapperWithUnknownResultMap.load.run {}).2.statements.ids = ["m.a"] := by decide +kernel
  have hfails : (mapperWithUnknownResultMap.load.run {}).1.toBool = false := by decide +kernel
  rcases hrun : mapperWithUnknownResultMap.load.run {} with ⟨fault | _, after⟩ <;>
    rw [hrun] at hids hfails
  · obtain ⟨hloaded, hmappers, hrest⟩ := load_error hrun
    refine ⟨fault, after, rfl, hloaded, by rw [hmappers]; rfl, ?_⟩
    rcases hrest with
      ⟨-, rfl⟩ | ⟨-, -, -, -, statements, -, -, -, -, -, hstatements, hget, -, -⟩
    · cases hids
    · exact ⟨statements, hstatements.symm.trans hids, hids, hget⟩
  · cases hfails

/-- Loading is not all or nothing, be it of a file or of a mapper: the
statement before the refused element is found and listed afterwards. -/
theorem load_error_keeps_statement :
    ((fileWithUnknownAlias.load.run {}).1.mapError Fault.message =
        .error "Builder error: Could not resolve type alias 'T'." ∧
      (({} : Configuration).statements.get "m.a").toBool = false ∧
      ((fileWithUnknownAlias.load.run {}).2.statements.get "m.a").toBool = true ∧
      (fileWithUnknownAlias.load.run {}).2.statements.ids = ["m.a"]) ∧
    (mapperWithUnknownResultMap.load.run {}).1.mapError Fault.message =
        .error "Builder error: Could not find result map 'm.rm' referenced from 'm.b'" ∧
      ((mapperWithUnknownResultMap.load.run {}).2.statements.get "m.a").toBool = true ∧
      (mapperWithUnknownResultMap.load.run {}).2.statements.ids = ["m.a"] := by
  decide +kernel

end Document

end SqlMapper
