import SqlMapper.Handler.Basic

/-!
# Result maps: how a row becomes a value

A result map gives the type of the value, explicit mappings from columns to
properties, and whether the other columns find their property by name.
-/

namespace SqlMapper

/-- How one column fills one property. -/
structure ResultMapping where
  property : String
  column : String
  type : ValueType
  handler : Handler

/-- How a row becomes a value. -/
structure ResultMap where
  id : String
  type : ValueType
  mappings : List ResultMapping
  /-- Whether unmapped columns are mapped by name; by default the settings
  decide. -/
  autoMapping : Option Bool := none

/-- Some explicit mapping names the column, in any case. -/
def ResultMap.isMappedColumn (resultMap : ResultMap) (column : String) : Bool :=
  resultMap.mappings.any fun mapping => Text.upper mapping.column = Text.upper column

end SqlMapper
