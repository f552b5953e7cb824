import SqlMapper.Mapper.Arguments
import SqlMapper.Mapper.Registration
import SqlMapper.Session.Basic

/-!
# Dispatch: calling a method of a mapper

A method is bound to the statement of its name when it is first called, and
stays bound. A call passes its arguments as the statement's parameter and
gives the outcome the form that the method declares:

* a select gives a list, one value or nothing;
* any other kind gives the number of changed rows as an integer or as
  whether there were any, or nothing.
-/

namespace SqlMapper

/-! ## Binding -/

namespace MapperDeclaration

/-- The method bound to its statement. -/
def bindMethod (mapper : MapperDeclaration) (statements : Catalogue Statement) (name : String) :
    Except Fault BoundMethod :=
  match mapper.method? name with
  | none => .error (.binding (.methodUndeclared name mapper.typeName))
  | some method =>
      let id := mapper.statementId method.name
      match statements.get id with
      | .error _ => .error (.binding (.statementMissing id))
      | .ok statement =>
          if statement.kind = .unknown then .error (.binding (.unknownExecution id))
          else .ok { method, statementId := id, kind := statement.kind }

end MapperDeclaration

namespace Configuration

/-- The known mapper of the given name. -/
def mapper (config : Configuration) (typeName : String) : Except Fault KnownMapper :=
  match config.mappers.find? typeName with
  | some known => .ok known
  | none => .error (.binding (.mapperUnknown typeName))

/-- The bound method of a known mapper; it is bound on first demand and kept
from then on. -/
def boundMethod (typeName name : String) : Configure BoundMethod := do
  let config ← get
  let known ← config.mapper typeName
  match known.bound.find? name with
  | some bound => return bound
  | none =>
      let bound ← known.declaration.bindMethod config.statements name
      let known := { known with bound := known.bound.put name bound }
      set { config with mappers := config.mappers.put typeName known }
      return bound

end Configuration

/-! ## Calling -/

namespace BoundMethod

/-- A row count in the form that the method declares. -/
def countResult (bound : BoundMethod) (rows : Nat) : Except Fault Value :=
  match bound.method.returns with
  | none => .ok .null
  | some .int =>
      if fitsInt rows then .ok (.int (Int32.ofNat rows))
      else .error (.conversion (.countTooLarge rows .int))
  | some .long =>
      if fitsLong rows then .ok (.long (Int64.ofNat rows))
      else .error (.conversion (.countTooLarge rows .long))
  | some .bool => .ok (.bool (0 < rows))
  | some other => .error (.binding (.unsupportedReturn bound.statementId other))

/-- The value of the only row in the form that the method declares. -/
def rowResult (bound : BoundMethod) (value : Value) : Except Fault Value :=
  match bound.method.returns with
  | some type =>
      if value.isNull && type.isPrimitive then
        .error (.binding (.nullForPrimitive bound.statementId type))
      else .ok value
  | none => .ok value

/-- Calls the method on a session. -/
def call (bound : BoundMethod) (config : Configuration) (answers : Answers)
    (arguments : List Value) : Operation Value := do
  let parameter ← bound.method.parameter arguments
  match bound.kind with
  | .insert | .update | .delete =>
      bound.countResult (← Session.update config answers bound.statementId parameter)
  | .select =>
      match bound.method.returns with
      | none =>
          let _ ← Session.selectList config answers bound.statementId parameter
          return .null
      | some (.list _) =>
          return .list (← Session.selectList config answers bound.statementId parameter)
      | some _ =>
          bound.rowResult (← Session.selectOne config answers bound.statementId parameter)
  | .unknown => throw (.binding (.unknownExecution bound.statementId))

end BoundMethod

/-- Calls a method of a known mapper: the outcome, and the configuration and
the session afterwards. -/
def invoke (config : Configuration) (session : Session) (answers : Answers)
    (typeName method : String) (arguments : List Value) :
    Except Fault Value × Configuration × Session :=
  match (Configuration.boundMethod typeName method).run config with
  | (.error fault, config) => (.error fault, config, session)
  | (.ok bound, config) =>
      let (outcome, session) := (bound.call config answers arguments).run session
      (outcome, config, session)

end SqlMapper
