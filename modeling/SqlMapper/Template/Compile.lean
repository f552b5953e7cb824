import SqlMapper.Configuration.Settings
import SqlMapper.Property.Metadata
import SqlMapper.Statement.Basic
import SqlMapper.Template.Reference
import SqlMapper.TypeAlias

/-!
# Compiling a template

Every token of a template is a parameter reference. It becomes a placeholder
in the SQL and a parameter mapping beside it, in the same order.

## Main definitions

* `TypeSystem` — the types, aliases and handlers that references speak of.
* `TypeSystem.mappingOf` — the parameter mapping of one reference.
* `TypeSystem.compile` — the compiled form of a template.
-/

namespace SqlMapper

/-- The types, their aliases and their handlers. -/
structure TypeSystem where
  family : Family := {}
  handlers : HandlerRegistry := .initial
  aliases : AliasRegistry := .initial

namespace TypeSystem

variable (types : TypeSystem)

/-! ## One reference -/

/-- The type of a property of the parameter: the parameter's own type if it
is sent as a whole, the type that the property reads as if it can be read,
and any type otherwise. -/
def propertyType (property : String) (parameterType : ValueType) : ValueType :=
  if types.handlers.has types.family parameterType none then parameterType
  else
    match parameterType with
    | .object name =>
        match types.family.describe name with
        | .ok descriptor =>
            if descriptor.canReadPath types.family.describe property then
              match descriptor.pathReadType types.family.describe property with
              | .ok type => type
              | .error _ => .any
            else .any
        | .error _ => .any
    | _ => .any

/-- The numbers that count as a scale. -/
def scaleBound : Nat := 0x100000000

/-- The draft with one option of the reference `content` applied. -/
def applyOption (content : String) (draft : ParameterDraft) (option : String × String) :
    Except Fault ParameterDraft :=
  let (key, value) := option
  match key with
  | "javaType" => do return { draft with type := ← types.aliases.resolve value }
  | "jdbcType" => do return { draft with wire := some (← WireType.ofName value) }
  | "mode" => do return { draft with mode := ← ParameterMode.ofName value }
  | "numericScale" =>
      match Text.readBelow scaleBound value.toList with
      | some scale => .ok { draft with scale := some scale }
      | none => .error (.builder (.invalidScale value content))
  | "resultMap" => .ok { draft with resultMap := some value }
  | "typeHandler" => .ok { draft with handlerName := some value }
  | "jdbcTypeName" => .ok { draft with wireName := some value }
  | "property" => .ok draft
  | "expression" => .error (.builder .expressionReference)
  | _ => .error (.builder (.invalidOption key content))

/-- The draft that the head and the shorthand type of a reference give. -/
def startDraft (property : String) (shorthand : Option String) (parameterType : ValueType) :
    Except Fault ParameterDraft := do
  let draft : ParameterDraft :=
    { property, type := types.propertyType property parameterType }
  match shorthand with
  | some wire => return { draft with wire := some (← WireType.ofName wire) }
  | none => return draft

/-- The parameter mapping of a reference. -/
def mappingOf (content : String) (parameterType : ValueType) :
    Except Fault ParameterMapping := do
  let reference ← Reference.parse content
  match reference.head with
  | .expression _ => throw (.builder .expressionReference)
  | .property property =>
      let start ← types.startDraft property reference.shorthand parameterType
      let draft ← reference.options.foldlM (types.applyOption content) start
      draft.finish types.handlers types.family

/-! ## A template -/

/-- Adds the mapping of a reference to the ones made so far and answers with
its placeholder. -/
def placeholderOf (settings : Settings) (parameterType : ValueType) (content : String) :
    ExceptT Fault (StateM (List ParameterMapping)) String := do
  let mapping ← types.mappingOf content parameterType
  let mappings := (← get) ++ [mapping]
  set mappings
  return settings.placeholder.render mappings.length

/-- The compiled form of a template for parameters of the given type, or of
any type. -/
def compile (settings : Settings) (template : String) (parameterType : Option ValueType) :
    Except Fault CompiledSql := do
  let handler := types.placeholderOf settings (parameterType.getD .any)
  let (outcome, mappings) := (settings.markers.replace template handler).run []
  let sql ← outcome
  return { sql := if settings.shrinkWhitespace then Text.squeeze sql else sql, mappings }

end TypeSystem

/-- The compiled form of a template under default settings. -/
def compileTemplate (template : String) : Except Fault CompiledSql :=
  ({} : TypeSystem).compile {} template none

end SqlMapper
