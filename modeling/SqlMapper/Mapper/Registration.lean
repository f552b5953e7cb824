import SqlMapper.Configuration.Assistant

/-!
# Registering a mapper

A mapper becomes known once. Its methods that carry SQL of a recognized kind
become statements of its namespace, in order of declaration.
-/

namespace SqlMapper

namespace MapperDeclaration

/-- Registers the statement of a method, if the method has one. -/
def registerMethod (assistant : Assistant) (method : MethodDeclaration) : Configure Unit := do
  match method.recognizedSql? with
  | none => return ()
  | some sql =>
      let parameterType := method.parameterType
      let compiled ← Assistant.compile sql.text parameterType
      let resultType := if sql.kind.isSelect then method.returns else none
      assistant.addStatement method.name compiled sql.kind parameterType method.resultMap resultType

/-- Registers the statements of a mapper, unless it counts as loaded. -/
def registerStatements (mapper : MapperDeclaration) : Configure Unit := do
  if (← get).isLoaded mapper.resource then return ()
  else
    match mapper.duplicateMethod? with
    | some name =>
        throw (.duplicateId "Mapped Statements collection" (mapper.statementId name))
    | none =>
        let assistant ← Assistant.enter { resource := mapper.resource } mapper.namespaceName
        mapper.methods.forM (registerMethod assistant)
        modify fun config => config.markLoaded mapper.resource

/-- Makes a mapper known. -/
def register (mapper : MapperDeclaration) : Configure Unit := do
  if (← get).hasMapper mapper.typeName then
    throw (.binding (.mapperKnown mapper.typeName))
  else
    mapper.registerStatements
    modify fun config =>
      { config with
        mappers := config.mappers.put mapper.typeName { declaration := mapper } }

end MapperDeclaration

end SqlMapper
