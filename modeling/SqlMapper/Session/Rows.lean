import SqlMapper.Configuration.Basic
import SqlMapper.Property.Navigation

/-!
# Rows: what a query gives back

A row lists its columns in the order of the query. The first result map of
the statement says what becomes of it:

* a map, from the mapped columns and then the other ones;
* an instance, whose properties are written one after the other: first by
  the explicit mappings, then by the columns that name a property;
* a scalar, from the first mapped column or else the first column.

An instance into which nothing but `null` was read is `null` itself. Without
a result map a row is the map of its columns.

## Main definitions

* `Row.column` — the value of a column by name.
* `Configuration.rowValue` — the value of one row.
* `Configuration.results` — the values of all rows of a statement.
-/

namespace SqlMapper

/-- A row: the columns with their values, no column twice. -/
abbrev Row := Entries Value

namespace Row

/-- The value of the column with exactly the name, or else of the first one
whose name differs only in the case of ASCII letters. -/
def column (row : Row) (name : String) : Value :=
  match row.find? name with
  | some value => value
  | none =>
      match List.find? (fun entry => Text.sameIgnoringAsciiCase entry.1 name) row with
      | some (_, value) => value
      | none => .null

/-- The value of the first column. -/
def first (row : Row) : Value :=
  match row with
  | [] => .null
  | (_, value) :: _ => value

/-- The map of all columns. -/
def toMap (row : Row) : Value := .map (Entries.sorted row)

end Row

/-- An instance that is being filled from a row. -/
structure Filling where
  target : Value
  /-- Some column gave a value. -/
  found : Bool

namespace Configuration

variable (config : Configuration)

/-- Unmapped columns are mapped by name. -/
def mapsAutomatically (resultMap : ResultMap) : Bool :=
  resultMap.autoMapping.getD config.settings.autoMapping

/-- The value that the handler of a mapping makes of its column. -/
def mappedColumn (row : Row) (mapping : ResultMapping) : Except Fault Value :=
  mapping.handler.fromWire (row.column mapping.column)

/-! ## Scalars -/

/-- The scalar that a row stands for. -/
def scalarValue (resultMap : ResultMap) (row : Row) : Except Fault Value :=
  match resultMap.mappings with
  | mapping :: _ => mappedColumn row mapping
  | [] =>
      match config.types.handlers.find? config.types.family resultMap.type none with
      | some handler => handler.fromWire row.first
      | none => .error (.conversion (.noResultHandler resultMap.type resultMap.id))

/-! ## Maps -/

/-- The entries of the explicit mappings. -/
def mappedEntries (resultMap : ResultMap) (row : Row) : Except Fault (Entries Value) :=
  resultMap.mappings.foldlM
    (fun entries mapping => do
      return entries.insert mapping.property (← mappedColumn row mapping))
    []

/-- The map that a row stands for. -/
def mapValue (resultMap : ResultMap) (row : Row) : Except Fault Value := do
  let mapped ← mappedEntries resultMap row
  let others :=
    if config.mapsAutomatically resultMap then
      row.filter fun entry => !resultMap.isMappedColumn entry.1
    else []
  return .map (others.foldl (fun entries entry => Entries.insert entry.1 entry.2 entries) mapped)

/-! ## Instances -/

/-- Writes a value to a property of the instance. An absent value is written
only if the settings say so and the type can hold it. -/
def assign (filling : Filling) (property : String) (type : ValueType) (value : Value) :
    Except Fault Filling :=
  if !value.isNull || (config.settings.callSettersOnNulls && !type.isPrimitive) then
    match (Edit.path config.describe property value).applyTo filling.target with
    | (.ok (), target) => .ok { target, found := filling.found || !value.isNull }
    | (.error fault, _) => .error fault
  else .ok filling

/-- Writes the property of an explicit mapping. -/
def assignMapped (row : Row) (filling : Filling) (mapping : ResultMapping) :
    Except Fault Filling := do
  config.assign filling mapping.property mapping.type (← mappedColumn row mapping)

/-- The handler of a column that is mapped by name to a property of the given
type. -/
def automaticHandler (type : ValueType) : Handler :=
  (config.types.handlers.find? config.types.family type none).getD
    config.types.handlers.unknown

/-- The property that a column without an explicit mapping is written to. -/
def automaticProperty? (descriptor : Descriptor) (resultMap : ResultMap) (column : String) :
    Option String :=
  if resultMap.isMappedColumn column then none
  else do
    let property ←
      descriptor.findPath config.describe column config.settings.mapUnderscoreToCamelCase
    if descriptor.canWritePath config.describe property then return property else none

/-- Writes the property that a column names, if it names one. -/
def assignNamed (descriptor : Descriptor) (resultMap : ResultMap) (filling : Filling)
    (column : String × Value) : Except Fault Filling :=
  match config.automaticProperty? descriptor resultMap column.1 with
  | none => .ok filling
  | some property => do
      let type ← descriptor.pathWriteType config.describe property
      config.assign filling property type (← (config.automaticHandler type).fromWire column.2)

/-- The instance that a row stands for. -/
def instanceValue (resultMap : ResultMap) (type : TypeName) (row : Row) : Except Fault Value := do
  let descriptor ← config.describe type
  let start : Filling := { target := ← descriptor.instantiate, found := false }
  let mapped ← resultMap.mappings.foldlM (config.assignMapped row) start
  let filled ←
    if config.mapsAutomatically resultMap then
      row.foldlM (config.assignNamed descriptor resultMap) mapped
    else .ok mapped
  return if filled.found then filled.target else .null

/-! ## Rows -/

/-- The value that a row stands for. -/
def rowValue (resultMap : ResultMap) (row : Row) : Except Fault Value :=
  match resultMap.type with
  | .any | .map => config.mapValue resultMap row
  | .object type =>
      if config.types.handlers.has config.types.family (.object type) none then
        config.scalarValue resultMap row
      else config.instanceValue resultMap type row
  | _ => config.scalarValue resultMap row

/-- The values that the rows of a statement stand for. -/
def results (statement : Statement) (rows : List Row) : Except Fault (List Value) :=
  match statement.resultMaps with
  | [] => .ok (rows.map Row.toMap)
  | resultMap :: _ => rows.mapM (config.rowValue resultMap)

end Configuration

end SqlMapper
