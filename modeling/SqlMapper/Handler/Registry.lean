import SqlMapper.Handler.Basic
import SqlMapper.Property.Shape

/-!
# The handler registry

Handlers are registered for a value type, with or without a wire type, for a
wire type alone, and under a name.

A value type *resolves* a wire type if it has a handler for it, or one
without wire type, or if all its handlers are one and the same. A type that
does not resolve leaves the question to its supertypes. The parameter bag
never has a handler.

## Main definitions

* `HandlerTable` — the handlers of one value type.
* `HandlerRegistry` — the registry.
* `HandlerRegistry.find?` — the handler of a value type and a wire type.
-/

namespace SqlMapper

/-! ## Tables -/

/-- The handlers of one value type by wire type, in order of registration. -/
abbrev HandlerTable := List (Option WireType × Handler)

namespace HandlerTable

/-- The handler registered for the wire type, or for none. -/
def get? (table : HandlerTable) (wire : Option WireType) : Option Handler :=
  (table.find? fun entry => entry.1 = wire).map Prod.snd

/-- Registers a handler; a registered wire type keeps its place. -/
def set (wire : Option WireType) (handler : Handler) : HandlerTable → HandlerTable
  | [] => [(wire, handler)]
  | (w, h) :: table =>
      if w = wire then (w, handler) :: table else (w, h) :: set wire handler table

/-- The handler behind all entries, if it is one and the same. -/
def sole? : HandlerTable → Option Handler
  | [] => none
  | (_, first) :: others =>
      if others.all fun entry => entry.2.tag = first.tag then some first else none

/-- The handler that the table has for a wire type. -/
def resolve? (table : HandlerTable) (wire : Option WireType) : Option Handler :=
  (table.get? wire).or ((table.get? none).or table.sole?)

end HandlerTable

/-! ## The registry -/

/-- The registered handlers. -/
structure HandlerRegistry where
  byType : List (ValueType × HandlerTable) := []
  byWire : List (WireType × Handler) := []
  byName : Entries Handler := []

namespace HandlerRegistry

/-- The handlers registered for a value type. -/
def table (registry : HandlerRegistry) (type : ValueType) : HandlerTable :=
  ((registry.byType.find? fun entry => entry.1 = type).map Prod.snd).getD []

/-- Replaces the table of a value type. -/
def setTable (type : ValueType) (table : HandlerTable) :
    List (ValueType × HandlerTable) → List (ValueType × HandlerTable)
  | [] => [(type, table)]
  | (t, old) :: tables =>
      if t = type then (t, table) :: tables else (t, old) :: setTable type table tables

/-- Registers a handler for a value type. -/
def register (registry : HandlerRegistry) (type : ValueType) (wire : Option WireType)
    (handler : Handler) : HandlerRegistry :=
  { registry with
    byType := setTable type ((registry.table type).set wire handler) registry.byType }

/-- Registers a handler for a wire type. -/
def registerWire (registry : HandlerRegistry) (wire : WireType) (handler : Handler) :
    HandlerRegistry :=
  { registry with
    byWire := (wire, handler) :: registry.byWire.filter fun entry => entry.1 ≠ wire }

/-- Registers a handler under a name. -/
def registerNamed (registry : HandlerRegistry) (name : String) (handler : Handler) :
    HandlerRegistry :=
  { registry with byName := registry.byName.put name handler }

/-! ## Looking handlers up -/

/-- The first type of a lineage that resolves the wire type decides. -/
def findAmong (registry : HandlerRegistry) (wire : Option WireType) (types : List ValueType) :
    Option Handler :=
  types.findSome? fun type => (registry.table type).resolve? wire

/-- The value types to ask for a handler: an object type and its supertypes,
depth first, and any other type alone. The parameter bag has none. -/
def candidates (family : Family) : ValueType → List ValueType
  | .params => []
  | .object name => (family.lineage name).map .object
  | type => [type]

/-- The handler of a value type for a wire type. -/
def find? (registry : HandlerRegistry) (family : Family) (type : ValueType)
    (wire : Option WireType) : Option Handler :=
  registry.findAmong wire (candidates family type)

/-- The value type has a handler for the wire type. -/
def has (registry : HandlerRegistry) (family : Family) (type : ValueType)
    (wire : Option WireType) : Bool :=
  (registry.find? family type wire).isSome

/-- The handler of a wire type. -/
def findWire? (registry : HandlerRegistry) (wire : WireType) : Option Handler :=
  (registry.byWire.find? fun entry => entry.1 = wire).map Prod.snd

/-- The handler of a name. -/
def findNamed? (registry : HandlerRegistry) (name : String) : Option Handler :=
  registry.byName.find? name

/-- The handler of last resort. -/
def unknown (_ : HandlerRegistry) : Handler := Handler.unknown

/-- The handler to use for a value type and a wire type: the one of the
type, or else of the wire type, or else the one of last resort. -/
def choose (registry : HandlerRegistry) (family : Family) (type : ValueType)
    (wire : Option WireType) : Handler :=
  ((registry.find? family type wire).or (wire.bind registry.findWire?)).getD registry.unknown

/-! ## The initial registry -/

/-- The scalar types with their handlers and wire types. -/
def scalars : List (ValueType × Handler × List WireType) :=
  [(.bool, .boolean, [.boolean, .bit]),
   (.int, .integer, [.integer, .smallInt, .tinyInt]),
   (.long, .long, [.bigInt]),
   (.double, .double, [.double, .float, .real]),
   (.string, .string, [.varchar, .char, .longVarchar, .nVarchar, .nChar, .clob]),
   (.bytes, .bytes, [.blob, .binary, .varBinary, .longVarBinary])]

/-- Registers the handler of a scalar type everywhere it belongs. -/
def registerScalar (registry : HandlerRegistry) (type : ValueType) (handler : Handler)
    (wires : List WireType) : HandlerRegistry :=
  let typed := wires.foldl
    (fun registry wire =>
      (registry.register type (some wire) handler).registerWire wire handler)
    (registry.register type none handler)
  typed.registerNamed handler.name handler

/-- The registry that knows the built-in handlers. -/
def initial : HandlerRegistry :=
  let registry : HandlerRegistry := scalars.foldl
    (fun registry entry => registerScalar registry entry.1 entry.2.1 entry.2.2) {}
  ((registry.register .any none .unknown).registerWire .other .unknown).registerNamed
    Handler.unknownName .unknown

end HandlerRegistry

end SqlMapper
