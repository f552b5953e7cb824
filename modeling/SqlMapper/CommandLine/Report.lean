import SqlMapper.Configuration.Basic

/-!
# Reports: what the commands print

The lines that show compiled SQL, the statements of a configuration, and the
values that a statement sends. Positions count from one.

## Main definitions

* `sqlReport` — compiled SQL with its parameters.
* `statementsReport` — the statements of a configuration.
* `boundReport` — bound values.
-/

namespace SqlMapper.CommandLine

/-- The lines, each behind its position. -/
def numbered (lines : List String) : List String :=
  lines.zipIdx.map fun (line, index) =>
    "  " ++ Text.padStart 3 (Text.decimal (index + 1)) ++ ". " ++ line

/-- What is said about a parameter. -/
def parameterLine (mapping : ParameterMapping) : String :=
  let wire := mapping.wire.map fun wire => s!"jdbcType={wire.name}"
  let scale := mapping.scale.map fun scale => "numericScale=" ++ Text.decimal scale
  " ".intercalate
    ([mapping.property, s!"type={mapping.type.text}", s!"mode={mapping.mode.name}"]
      ++ wire.toList ++ scale.toList ++ [s!"handler={mapping.handler.name}"])

/-- Compiled SQL, and its parameters if there are any. -/
def sqlReport (compiled : CompiledSql) : List String :=
  ["Compiled SQL:", "  " ++ compiled.sql] ++
    if compiled.mappings.isEmpty then []
    else ["", "Parameters:"] ++ numbered (compiled.mappings.map parameterLine)

/-- What is said about a statement in a list: its kind, its id, and the type
of its first result map. -/
def statementLine (statement : Statement) : String :=
  let result := statement.resultMaps.head?.map fun resultMap => s!" -> {resultMap.type.text}"
  "  " ++ Text.padEnd 6 statement.kind.name ++ " " ++ statement.id ++ result.getD ""

/-- The statements of the configuration that a file gives. -/
def statementsReport (path : String) (config : Configuration) : List String :=
  let count := Text.decimal config.statements.size
  ["✓ " ++ path, ""]
    ++ config.statements.values.map statementLine
    ++ ["", s!"{count} statement(s) loaded"]

/-- A statement with its compiled SQL. -/
def statementReport (statement : Statement) : List String :=
  [s!"Statement: {statement.id}", s!"Kind: {statement.kind.name}", ""] ++ sqlReport statement.sql

/-- Bound values with their kinds. -/
def boundReport (values : List Value) : List String :=
  ["", "Bound values:"] ++
    if values.isEmpty then ["  (none)"]
    else numbered (values.map fun value => s!"{value.text} ({value.label})")

end SqlMapper.CommandLine
