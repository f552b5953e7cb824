import SqlMapper.Catalogue
import SqlMapper.Mapper.Declaration
import SqlMapper.Template.Compile

/-!
# The configuration

Everything that sessions work with: settings, types, the registered
statements and result maps, the documents that were loaded, and the known
mappers.

A change of the configuration that fails half-way keeps what was registered
before the failure.

## Main definitions

* `Configuration` — the type.
* `Configure` — a change of the configuration that can fail.
-/

namespace SqlMapper

/-- A method bound to its statement. -/
structure BoundMethod where
  method : MethodDeclaration
  /-- The full id of the statement. -/
  statementId : String
  kind : StatementKind

/-- A known mapper with the methods bound so far. -/
structure KnownMapper where
  declaration : MapperDeclaration
  bound : Entries BoundMethod := []

/-- Settings, types, and everything that is registered. -/
structure Configuration where
  settings : Settings := {}
  types : TypeSystem := {}
  statements : Catalogue Statement := { name := "Mapped Statements collection" }
  resultMaps : Catalogue ResultMap := { name := "Result Maps collection" }
  /-- The loaded documents. -/
  loaded : List String := []
  /-- The known mappers by type name. -/
  mappers : Entries KnownMapper := []

/-- A change of the configuration. What was changed before a fault stays
changed. -/
abbrev Configure := ExceptT Fault (StateM Configuration)

namespace Configuration

/-- The source of descriptors. -/
def describe (config : Configuration) : Describe := config.types.family.describe

/-- The document was loaded. -/
def isLoaded (config : Configuration) (resource : String) : Bool :=
  config.loaded.contains resource

/-- The configuration in which the document counts as loaded. -/
def markLoaded (config : Configuration) (resource : String) : Configuration :=
  if config.isLoaded resource then config
  else { config with loaded := config.loaded ++ [resource] }

/-- Registers a statement under its id. -/
def addStatement (statement : Statement) : Configure Unit := do
  let config ← get
  let statements ← config.statements.insert statement.id statement
  set { config with statements }

/-- Registers a result map under its id. -/
def addResultMap (resultMap : ResultMap) : Configure Unit := do
  let config ← get
  let resultMaps ← config.resultMaps.insert resultMap.id resultMap
  set { config with resultMaps }

/-- The mapper is known. -/
def hasMapper (config : Configuration) (typeName : String) : Bool :=
  config.mappers.has typeName

end Configuration

end SqlMapper
