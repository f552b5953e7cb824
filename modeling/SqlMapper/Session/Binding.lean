import SqlMapper.Configuration.Basic
import SqlMapper.Property.Navigation

/-!
# Binding: the values that a statement sends

Every placeholder of a statement gets one value. A parameter that has a
handler of its own is sent as a whole; of any other parameter the value at
the mapping's path is sent. A placeholder that is only written back sends
`null`.
-/

namespace SqlMapper

variable (types : TypeSystem)

/-- The parameter is sent as a whole. -/
def sentWhole (parameter : Value) : Bool :=
  !parameter.isNull && types.handlers.has types.family parameter.type none

/-- The value of one mapping before its handler sees it. -/
def mappedValue (parameter : Value) (mapping : ParameterMapping) : Except Fault Value :=
  if parameter.isNull then .ok .null
  else if sentWhole types parameter then .ok parameter
  else parameter.readPath types.family.describe mapping.property

/-- The value that one placeholder sends. -/
def boundValue (parameter : Value) (mapping : ParameterMapping) : Except Fault Value :=
  if mapping.mode = .output then .ok .null
  else do mapping.handler.toWire (← mappedValue types parameter mapping) mapping.wire

/-- The values that the placeholders of compiled SQL send, in order. -/
def CompiledSql.bind (sql : CompiledSql) (parameter : Value) : Except Fault (List Value) :=
  sql.mappings.mapM (boundValue types parameter)

end SqlMapper
