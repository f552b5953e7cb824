import SqlMapper.Statement.ParameterMapping
import SqlMapper.Statement.ResultMap

/-!
# Statements

A statement is compiled SQL with an id, a kind, and what is known about its
parameter and its results.
-/

namespace SqlMapper

/-! ## Kinds -/

/-- The kind of a statement. -/
inductive StatementKind where
  | unknown
  | select
  | insert
  | update
  | delete
  deriving DecidableEq, Repr, Inhabited

namespace StatementKind

/-- The name of a kind. -/
def name : StatementKind → String
  | unknown => "UNKNOWN"
  | select => "SELECT"
  | insert => "INSERT"
  | update => "UPDATE"
  | delete => "DELETE"

/-- The kinds that a statement can be declared with. -/
def recognized : List StatementKind := [select, insert, update, delete]

/-- Reads the name of a kind in any case, blanks around it ignored; any other
text is of unknown kind. -/
def ofName (text : String) : StatementKind :=
  (recognized.find? fun kind => kind.name = Text.asciiUpper (Text.trim text)).getD unknown

/-- The statement answers with rows. -/
def isSelect (kind : StatementKind) : Bool := kind = select

end StatementKind

/-! ## Statements -/

/-- SQL with placeholders and the mapping of each, in order. -/
structure CompiledSql where
  sql : String
  mappings : List ParameterMapping

/-- A registered statement. -/
structure Statement where
  id : String
  /-- The document that it comes from. -/
  resource : String
  kind : StatementKind
  sql : CompiledSql
  parameterType : Option ValueType
  resultMaps : List ResultMap

end SqlMapper
