import SqlMapper.Configuration.Basic

/-!
# The assistant: building statements and result maps of one document

A document builds its elements inside one namespace. The assistant qualifies
their names, settles handlers and result maps, and registers the outcome.

* An element is named without dots, or with the namespace in front.
* A reference with a dot is a full id; one without is qualified.
-/

namespace SqlMapper

/-- Where elements are being built. -/
structure Assistant where
  /-- The document. -/
  resource : String
  namespaceName : Option String := none
  deriving DecidableEq, Repr

namespace Assistant

/-! ## Names -/

/-- Enters a namespace, which cannot be left again. -/
def enter (assistant : Assistant) (namespaceName : String) : Except Fault Assistant :=
  if Text.isBlankText namespaceName then .error (.builder .blankNamespace)
  else
    match assistant.namespaceName with
    | some current =>
        if current = namespaceName then .ok assistant
        else .error (.builder (.wrongNamespace current namespaceName))
    | none => .ok { assistant with namespaceName := some namespaceName }

/-- The namespace for an element. -/
def requireNamespace (assistant : Assistant) (element : String) : Except Fault String :=
  match assistant.namespaceName with
  | some namespaceName => .ok namespaceName
  | none => .error (.builder (.noNamespace element assistant.resource))

/-- The name has a dot. -/
def hasDot (name : String) : Bool := name.toList.contains '.'

/-- The full id of an element of this document. -/
def elementId (assistant : Assistant) (name : String) : Except Fault String := do
  let namespaceName ← assistant.requireNamespace name
  if Text.startsWith (namespaceName.toList ++ ['.']) name.toList then return name
  else if hasDot name then throw (.builder (.dottedElement name))
  else return namespaceName ++ "." ++ name

/-- The full id of an element of any document. -/
def referenceId (assistant : Assistant) (name : String) : Except Fault String := do
  let namespaceName ← assistant.requireNamespace name
  if hasDot name then return name else return namespaceName ++ "." ++ name

/-! ## Result maps -/

/-- The handler of a result column. -/
def resultHandler (types : TypeSystem) (type : ValueType) (wire : Option WireType)
    (handlerName : Option String) : Except Fault Handler :=
  match handlerName with
  | some name =>
      match types.handlers.findNamed? name with
      | some handler => .ok handler
      | none => .error (.builder (.unknownHandler name))
  | none => .ok (types.handlers.choose types.family type wire)

/-- The type of a result column without a type of its own: the type that the
property is written as, or any type where the result is no object. -/
def columnType (types : TypeSystem) (resultType : ValueType) (property : String) :
    Except Fault ValueType :=
  match resultType with
  | .object name => do
      (← types.family.describe name).pathWriteType types.family.describe property
  | _ => .ok .any

/-- A result column. -/
def resultMapping (types : TypeSystem) (resultType : ValueType) (property column : String)
    (type : Option ValueType) (wire : Option WireType) (handlerName : Option String) :
    Except Fault ResultMapping := do
  let type ← match type with
    | some type => .ok type
    | none => columnType types resultType property
  let handler ← resultHandler types type wire handlerName
  return { property, column, type, handler }

/-- Registers a result map under a name of this document. -/
def addResultMap (assistant : Assistant) (name : String) (type : ValueType)
    (mappings : List ResultMapping) (autoMapping : Option Bool) : Configure Unit := do
  let id ← assistant.elementId name
  Configuration.addResultMap { id, type, mappings, autoMapping }

/-! ## Statements -/

/-- The registered result map of a reference in a statement. -/
def referencedResultMap (assistant : Assistant) (resultMaps : Catalogue ResultMap)
    (statementId name : String) : Except Fault ResultMap := do
  let id ← assistant.referenceId name
  match resultMaps.get id with
  | .ok resultMap => return resultMap
  | .error _ => throw (.builder (.unknownResultMap id statementId))

/-- The names in a list separated by commas; blank ones do not count. -/
def namesIn (list : String) : List String :=
  ((Text.split ',' list).map Text.trim).filter (!·.isEmpty)

/-- The id of the result map that a statement has of its own. -/
def inlineId (statementId : String) : String := statementId ++ "-Inline"

/-- The result maps of a statement: the referenced ones, or else, for a
select with a result type, one of its own for the element type. -/
def resultMapsOf (assistant : Assistant) (resultMaps : Catalogue ResultMap)
    (statementId : String) (kind : StatementKind) (references : Option String)
    (resultType : Option ValueType) : Except Fault (List ResultMap) :=
  match references with
  | some list =>
      (namesIn list).mapM (assistant.referencedResultMap resultMaps statementId)
  | none =>
      match resultType with
      | some type =>
          if kind.isSelect then
            .ok [{ id := inlineId statementId, type := type.element, mappings := [] }]
          else .ok []
      | none => .ok []

/-- Registers a statement under a name of this document. -/
def addStatement (assistant : Assistant) (name : String) (sql : CompiledSql)
    (kind : StatementKind) (parameterType : Option ValueType) (references : Option String)
    (resultType : Option ValueType) : Configure Unit := do
  let id ← assistant.elementId name
  let resultMaps ← assistant.resultMapsOf (← get).resultMaps id kind references resultType
  Configuration.addStatement
    { id, resource := assistant.resource, kind, sql, parameterType, resultMaps }

/-- Compiles a template with the settings and types of the configuration. -/
def compile (template : String) (parameterType : Option ValueType) : Configure CompiledSql := do
  let config ← get
  config.types.compile config.settings template parameterType

end Assistant

end SqlMapper
