/-!
# Value types: declared types of properties, parameters and results

Object types are known by name; what a name exposes is said by a family of
shapes (`SqlMapper.Property.Family`), which also decides assignability.
-/

namespace SqlMapper

/-- The name of an object type. -/
abbrev TypeName := String

/-- A declared type. -/
inductive ValueType where
  /-- The universal type. -/
  | any
  | bool
  | int
  | long
  | double
  | string
  | bytes
  | list (element : ValueType)
  | map
  /-- The named bag of a call with several arguments. -/
  | params
  /-- An object type. -/
  | object (name : TypeName)
  deriving DecidableEq, Repr, Inhabited

namespace ValueType

/-- The name of the type, as messages show it. -/
def text : ValueType → String
  | any => "Object"
  | bool => "boolean"
  | int => "int"
  | long => "long"
  | double => "double"
  | string => "String"
  | bytes => "byte[]"
  | list element => "List<" ++ element.text ++ ">"
  | map => "Map"
  | params => "ParamMap"
  | object name => name

/-- The element type of a list type; any other type is its own. -/
def element : ValueType → ValueType
  | list element => element
  | type => type

/-- The type is a list type. -/
def isList : ValueType → Bool
  | list _ => true
  | _ => false

/-- The name of the type, if it is an object type. -/
def objectName? : ValueType → Option TypeName
  | object name => some name
  | _ => none

/-- The type has values for which absence has no representation. -/
def isPrimitive : ValueType → Bool
  | bool | int | long | double => true
  | _ => false

end ValueType

end SqlMapper
