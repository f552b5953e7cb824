import SqlMapper.Statement.Basic
import SqlMapper.Text.Numeral

/-!
# Mapper declarations

A mapper declares methods. A method may carry SQL of some kind; it has
parameters with or without names, maybe a result type, and maybe the ids of
result maps.
-/

namespace SqlMapper

/-- SQL carried by a method. -/
structure MethodSql where
  kind : StatementKind
  text : String
  deriving DecidableEq, Repr

/-- The SQL given in fragments, which are joined by spaces. -/
def MethodSql.ofFragments (kind : StatementKind) (fragments : List String) : MethodSql :=
  { kind, text := Text.trim (" ".intercalate fragments) }

/-- A parameter of a method; one without a name is known by its position. -/
structure MethodParameter where
  name : Option String
  type : ValueType
  deriving DecidableEq, Repr

/-- A parameter with the given name; an empty name is none. -/
def MethodParameter.named (name : String) (type : ValueType) : MethodParameter :=
  { name := if name.isEmpty then none else some name, type }

/-- A declared method. -/
structure MethodDeclaration where
  name : String
  sql : Option MethodSql := none
  parameters : List MethodParameter := []
  returns : Option ValueType := none
  /-- Ids of result maps, separated by commas. -/
  resultMap : Option String := none
  deriving DecidableEq, Repr

/-- The type of the one parameter that a statement gets: none, the only one,
or the bag of all. -/
def MethodDeclaration.parameterType (method : MethodDeclaration) : Option ValueType :=
  match method.parameters with
  | [] => none
  | [single] => some single.type
  | _ => some .params

/-- The method carries SQL of a recognized kind. -/
def MethodDeclaration.recognizedSql? (method : MethodDeclaration) : Option MethodSql :=
  match method.sql with
  | some sql => if sql.kind = .unknown then none else some sql
  | none => none

/-- A declared mapper. -/
structure MapperDeclaration where
  /-- The full name of the mapper type. -/
  typeName : String
  namespaceName : String
  methods : List MethodDeclaration
  deriving DecidableEq, Repr

namespace MapperDeclaration

/-- A mapper whose namespace is its own name unless another is given. -/
def new (typeName : String) (namespaceName : Option String)
    (methods : List MethodDeclaration) : MapperDeclaration :=
  { typeName, namespaceName := namespaceName.getD typeName, methods }

/-- The name under which the mapper counts as loaded. -/
def resource (mapper : MapperDeclaration) : String := mapper.typeName ++ " (mapper)"

/-- The first method of the given name. -/
def method? (mapper : MapperDeclaration) (name : String) : Option MethodDeclaration :=
  mapper.methods.find? fun method => method.name = name

/-- The first name in the list that stands in `seen` or before itself. -/
def firstRepeated (seen : List String) : List String → Option String
  | [] => none
  | name :: names => if name ∈ seen then some name else firstRepeated (name :: seen) names

/-- The first method name that is declared again. -/
def duplicateMethod? (mapper : MapperDeclaration) : Option String :=
  firstRepeated [] (mapper.methods.map MethodDeclaration.name)

/-- The id of the statement of a method. -/
def statementId (mapper : MapperDeclaration) (method : String) : String :=
  mapper.namespaceName ++ "." ++ method

end MapperDeclaration

end SqlMapper
