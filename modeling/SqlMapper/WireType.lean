import SqlMapper.Text.Blank
import SqlMapper.Text.LetterCase

/-!
# Wire types: the column types that a database names

A wire type can be given wherever a parameter or a result column is
described. It selects a handler together with the value type.

## Main definitions

* `WireType.name` — the canonical upper-case name.
* `WireType.ofName?` — reads a name in any case, blanks around it ignored;
  `INT` is a second name of `INTEGER`.
-/

namespace SqlMapper

/-- A column type of the database. -/
inductive WireType where
  | array | bit | tinyInt | smallInt | integer | bigInt | float | real | double | numeric
  | decimal | char | varchar | longVarchar | nChar | nVarchar | clob | binary | varBinary
  | longVarBinary | blob | boolean | date | time | timestamp | null | other | undefined
  deriving DecidableEq, Repr, Inhabited

namespace WireType

/-- The canonical name. -/
def name : WireType → String
  | array => "ARRAY"
  | bit => "BIT"
  | tinyInt => "TINYINT"
  | smallInt => "SMALLINT"
  | integer => "INTEGER"
  | bigInt => "BIGINT"
  | float => "FLOAT"
  | real => "REAL"
  | double => "DOUBLE"
  | numeric => "NUMERIC"
  | decimal => "DECIMAL"
  | char => "CHAR"
  | varchar => "VARCHAR"
  | longVarchar => "LONGVARCHAR"
  | nChar => "NCHAR"
  | nVarchar => "NVARCHAR"
  | clob => "CLOB"
  | binary => "BINARY"
  | varBinary => "VARBINARY"
  | longVarBinary => "LONGVARBINARY"
  | blob => "BLOB"
  | boolean => "BOOLEAN"
  | date => "DATE"
  | time => "TIME"
  | timestamp => "TIMESTAMP"
  | null => "NULL"
  | other => "OTHER"
  | undefined => "UNDEFINED"

/-- All wire types. -/
def all : List WireType :=
  [array, bit, tinyInt, smallInt, integer, bigInt, float, real, double, numeric, decimal, char,
   varchar, longVarchar, nChar, nVarchar, clob, binary, varBinary, longVarBinary, blob, boolean,
   date, time, timestamp, null, other, undefined]

/-- The wire type with the given canonical name or synonym. -/
def ofCanonical? (name : String) : Option WireType :=
  if name = "INT" then some integer else all.find? fun type => type.name = name

/-- The form of a name under which wire types are looked up. -/
def canonical (text : String) : String := Text.asciiUpper (Text.trim text)

/-- Reads the name of a wire type. -/
def ofName? (text : String) : Option WireType := ofCanonical? (canonical text)

/-- The name of an optional wire type, `null` where none is given. -/
def nameOrNull : Option WireType → String
  | some type => type.name
  | none => "null"

/-- Every wire type is listed. -/
theorem mem_all (type : WireType) : type ∈ all := by
  cases type <;> decide

/-- A canonical name is read as its wire type. -/
theorem ofCanonical?_name (type : WireType) : ofCanonical? type.name = some type := by
  cases type <;> decide

end WireType

end SqlMapper
