import SqlMapper.Handler.Registry

/-!
# Parameter mappings: how one placeholder gets its value

A mapping says where in the parameter the value of a placeholder is found
and which handler sends it.

## Main definitions

* `ParameterMode` — whether a parameter is read, written back or both.
* `ParameterMapping` — a finished mapping.
* `ParameterDraft` — a mapping in the making; `ParameterDraft.finish` settles
  its handler.
-/

namespace SqlMapper

/-! ## Modes -/

/-- The direction of a parameter. -/
inductive ParameterMode where
  | input
  | output
  | both
  deriving DecidableEq, Repr, Inhabited

namespace ParameterMode

/-- The name of a mode. -/
def name : ParameterMode → String
  | input => "IN"
  | output => "OUT"
  | both => "INOUT"

/-- The form of a name under which modes are looked up. -/
def canonical (text : String) : String := Text.asciiUpper (Text.trim text)

/-- Reads the name of a mode in any case, blanks around it ignored. -/
def ofName? (text : String) : Option ParameterMode :=
  [input, output, both].find? fun mode => mode.name = canonical text

/-- Reads the name of a mode or says that there is none. -/
def ofName (text : String) : Except Fault ParameterMode :=
  match ofName? text with
  | some mode => .ok mode
  | none => .error (.builder (.unknownMode (canonical text)))

end ParameterMode

/-- Reads the name of a wire type or says that there is none. -/
def WireType.ofName (text : String) : Except Fault WireType :=
  match WireType.ofName? text with
  | some wire => .ok wire
  | none => .error (.builder (.unknownWireType (WireType.canonical text)))

/-! ## Mappings -/

/-- How one placeholder gets its value. -/
structure ParameterMapping where
  /-- The path of the value in the parameter. -/
  property : String
  mode : ParameterMode
  type : ValueType
  wire : Option WireType
  scale : Option Nat
  resultMap : Option String
  wireName : Option String
  handler : Handler

/-- A mapping whose handler is not settled. -/
structure ParameterDraft where
  property : String
  type : ValueType
  mode : ParameterMode := .input
  wire : Option WireType := none
  scale : Option Nat := none
  resultMap : Option String := none
  wireName : Option String := none
  /-- A handler that is given outright. -/
  handler : Option Handler := none
  /-- The name of a registered handler. -/
  handlerName : Option String := none

namespace ParameterDraft

/-- The handler of the mapping: the given one, or else the named one, or
else the one that the registry chooses. The parameter bag as a whole cannot
be sent. -/
def chooseHandler (draft : ParameterDraft) (registry : HandlerRegistry) (family : Family) :
    Except Fault Handler :=
  match draft.handler, draft.handlerName with
  | some handler, _ => .ok handler
  | none, some name =>
      match registry.findNamed? name with
      | some handler => .ok handler
      | none => .error (.builder (.unknownPropertyHandler name draft.property))
  | none, none =>
      if draft.type = .params then
        .error (.builder (.noHandler draft.property draft.type draft.wire))
      else .ok (registry.choose family draft.type draft.wire)

/-- Settles the handler. -/
def finish (draft : ParameterDraft) (registry : HandlerRegistry) (family : Family) :
    Except Fault ParameterMapping := do
  let handler ← draft.chooseHandler registry family
  return {
    property := draft.property
    mode := draft.mode
    type := draft.type
    wire := draft.wire
    scale := draft.scale
    resultMap := draft.resultMap
    wireName := draft.wireName
    handler }

end ParameterDraft

end SqlMapper
