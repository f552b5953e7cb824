import SqlMapper.Configuration.Assistant
import SqlMapper.Toml.Record

/-!
# Mapper files

A mapper file is a TOML document with a namespace, result maps and
statements. Loading it registers the result maps and then the statements, in
the order of the file; statements of an unknown kind are passed over. A file
counts as loaded once all of it is registered, and is not loaded again.

## Main definitions

* `MapperFile.parse` — reads the document.
* `MapperFile.load` — registers what it declares.
-/

namespace SqlMapper

/-! ## The document -/

/-- A column of a result map. -/
structure ResultMappingEntry where
  property : String
  column : String
  type : Option String
  wire : Option String
  handler : Option String
  deriving DecidableEq, Repr

/-- A result map. -/
structure ResultMapEntry where
  id : String
  type : String
  autoMapping : Option Bool
  mappings : List ResultMappingEntry
  deriving DecidableEq, Repr

/-- A statement. -/
structure StatementEntry where
  id : String
  kind : String
  sql : String
  parameterType : Option String
  resultType : Option String
  resultMap : Option String
  deriving DecidableEq, Repr

/-- What a mapper file declares. -/
structure MapperFile where
  namespaceName : String
  resultMaps : List ResultMapEntry
  statements : List StatementEntry
  deriving DecidableEq, Repr

open Toml (View Record)

/-- A column of a result map in a document. -/
def ResultMappingEntry.view (node : Toml.Node) : Option ResultMappingEntry := do
  let r ← View.record ["property", "column", "java_type", "jdbc_type", "type_handler"] node
  return {
    property := ← r.required View.string "property"
    column := ← r.required View.string "column"
    type := ← r.optional View.string "java_type"
    wire := ← r.optional View.string "jdbc_type"
    handler := ← r.optional View.string "type_handler" }

/-- A result map in a document. -/
def ResultMapEntry.view (node : Toml.Node) : Option ResultMapEntry := do
  let r ← View.record ["id", "type", "auto_mapping", "mappings"] node
  return {
    id := ← r.required View.string "id"
    type := ← r.required View.string "type"
    autoMapping := ← r.optional View.bool "auto_mapping"
    mappings := ← r.withDefault (View.list ResultMappingEntry.view) "mappings" [] }

/-- A statement in a document. -/
def StatementEntry.view (node : Toml.Node) : Option StatementEntry := do
  let r ← View.record ["id", "kind", "sql", "parameter_type", "result_type", "result_map"] node
  return {
    id := ← r.required View.string "id"
    kind := ← r.required View.string "kind"
    sql := ← r.required View.string "sql"
    parameterType := ← r.optional View.string "parameter_type"
    resultType := ← r.optional View.string "result_type"
    resultMap := ← r.optional View.string "result_map" }

/-- How a document that cannot be read is reported. -/
def unreadableDocument : String := "TOML parse error"

namespace MapperFile

/-- The mapper file in a document. -/
def view (document : Toml.Table) : Option MapperFile := do
  let r : Record := { fields := document, positional := false }
  return {
    namespaceName := ← r.required View.string "namespace"
    resultMaps := ← r.withDefault (View.list ResultMapEntry.view) "result_map" []
    statements := ← r.withDefault (View.list StatementEntry.view) "statement" [] }

/-- Reads a mapper file. -/
def parse (content resource : String) : Except Fault MapperFile :=
  match (Toml.parse content).bind view with
  | some file => .ok file
  | none => .error (.configuration (some resource) unreadableDocument)

/-! ## Loading -/

/-- The type of an optional alias. -/
def optionalType (types : TypeSystem) (name : Option String) :
    Except Fault (Option ValueType) :=
  match name with
  | some name => do return some (← types.aliases.resolve name)
  | none => .ok none

/-- A column of a result map for results of the given type. -/
def mappingOf (types : TypeSystem) (resultType : ValueType) (entry : ResultMappingEntry) :
    Except Fault ResultMapping := do
  let type ← optionalType types entry.type
  let wire ← match entry.wire with
    | some name => do pure (some (← WireType.ofName name))
    | none => .ok none
  Assistant.resultMapping types resultType entry.property entry.column type wire entry.handler

/-- Registers a result map. -/
def loadResultMap (assistant : Assistant) (entry : ResultMapEntry) : Configure Unit := do
  let types := (← get).types
  let type ← types.aliases.resolve entry.type
  let mappings ← entry.mappings.mapM fun mapping => (mappingOf types type mapping : Except _ _)
  assistant.addResultMap entry.id type mappings entry.autoMapping

/-- Registers a statement, unless its kind is unknown. -/
def loadStatement (assistant : Assistant) (entry : StatementEntry) : Configure Unit := do
  let kind := StatementKind.ofName entry.kind
  if kind = .unknown then return ()
  else
    let types := (← get).types
    let parameterType ← optionalType types entry.parameterType
    let resultType ← optionalType types entry.resultType
    let sql ← Assistant.compile entry.sql parameterType
    assistant.addStatement entry.id sql kind parameterType entry.resultMap resultType

/-- Registers what the file declares, unless it was loaded before. -/
def load (file : MapperFile) (resource : String) : Configure Unit := do
  if (← get).isLoaded resource then return ()
  else
    let assistant ← Assistant.enter { resource } file.namespaceName
    file.resultMaps.forM (loadResultMap assistant)
    file.statements.forM (loadStatement assistant)
    modify fun config => config.markLoaded resource

end MapperFile

/-- Loads the mapper file with the given content. -/
def Configuration.loadMapper (content resource : String) : Configure Unit := do
  let file ← MapperFile.parse content resource
  file.load resource

end SqlMapper
