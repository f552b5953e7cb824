import SqlMapper.Fault
import SqlMapper.Value.Json

/-!
# Handlers: between values and the wire

A handler turns a parameter value into what is sent and a column value into
what the caller gets. Handlers have an identity besides their name: two
handlers are one and the same exactly if their tags agree.

## Main definitions

* `Handler` — the type.
* `Handler.boolean` … `Handler.bytes` — one handler for each scalar type.
* `Handler.unknown` — the handler for everything else: it sends scalars as
  they are and takes any column.
* `Handler.tracing` — a handler that shows in its answers what it was given.
-/

namespace SqlMapper

/-- The identity of a handler. -/
inductive HandlerTag where
  /-- A handler that every registry starts with. -/
  | builtIn (name : String)
  /-- A handler that was supplied under the given name. -/
  | supplied (name : String)
  deriving DecidableEq, Repr

/-- A conversion to and from the wire. -/
structure Handler where
  tag : HandlerTag
  name : String
  /-- What is sent for a parameter value of the given wire type. -/
  toWire : Value → Option WireType → Except Fault Value
  /-- What the caller gets for a column value. -/
  fromWire : Value → Except Fault Value

namespace Handler

/-- The handler called `name` does not accept the value. -/
def reject (name : String) (value : Value) : Except Fault Value :=
  .error (.conversion (.rejected name value))

/-- The handler under another identity. -/
def withTag (handler : Handler) (tag : HandlerTag) : Handler := { handler with tag }

/-! ## Scalars -/

/-- The name of the handler of booleans. -/
def booleanName : String := "BooleanTypeHandler"

/-- Booleans; a column may be a number, which is true unless it is zero. -/
def boolean : Handler where
  tag := .builtIn booleanName
  name := booleanName
  toWire value _ :=
    match value with
    | .null | .bool _ => .ok value
    | other => reject booleanName other
  fromWire value :=
    match value with
    | .null | .bool _ => .ok value
    | .int n => .ok (.bool (n != 0))
    | .long n => .ok (.bool (n != 0))
    | other => reject booleanName other

/-- The name of the handler of 32-bit integers. -/
def integerName : String := "IntegerTypeHandler"

/-- A 64-bit integer as a 32-bit one, if it fits. -/
def narrow (name : String) (n : Int64) : Except Fault Value :=
  if fitsInt n.toInt then .ok (.int (Int32.ofInt n.toInt)) else reject name (.long n)

/-- 32-bit integers; a 64-bit integer must fit, and a column may be a
boolean. -/
def integer : Handler where
  tag := .builtIn integerName
  name := integerName
  toWire value _ :=
    match value with
    | .null | .int _ => .ok value
    | .long n => narrow integerName n
    | other => reject integerName other
  fromWire value :=
    match value with
    | .null | .int _ => .ok value
    | .long n => narrow integerName n
    | .bool b => .ok (.int (if b then 1 else 0))
    | other => reject integerName other

/-- The name of the handler of 64-bit integers. -/
def longName : String := "LongTypeHandler"

/-- A value as a 64-bit integer. -/
def widen (value : Value) : Except Fault Value :=
  match value with
  | .null | .long _ => .ok value
  | .int n => .ok (.long (Int64.ofInt n.toInt))
  | other => reject longName other

/-- 64-bit integers; a 32-bit integer is widened. -/
def long : Handler where
  tag := .builtIn longName
  name := longName
  toWire value _ := widen value
  fromWire := widen

/-- The name of the handler of doubles. -/
def doubleName : String := "DoubleTypeHandler"

/-- A value as a double. -/
def toDouble (value : Value) : Except Fault Value :=
  match value with
  | .null | .double _ => .ok value
  | .int n => .ok (.double (nearestDouble n.toInt))
  | .long n => .ok (.double (nearestDouble n.toInt))
  | other => reject doubleName other

/-- Doubles; an integer becomes the nearest double. -/
def double : Handler where
  tag := .builtIn doubleName
  name := doubleName
  toWire value _ := toDouble value
  fromWire := toDouble

/-- The name of the handler of strings. -/
def stringName : String := "StringTypeHandler"

/-- Strings; a column may be any scalar but bytes and is shown as text. -/
def string : Handler where
  tag := .builtIn stringName
  name := stringName
  toWire value _ :=
    match value with
    | .null | .string _ => .ok value
    | other => reject stringName other
  fromWire value :=
    match value with
    | .null | .string _ => .ok value
    | .bool _ | .int _ | .long _ | .double _ => .ok (.string value.text)
    | other => reject stringName other

/-- The name of the handler of bytes. -/
def bytesName : String := "ByteArrayTypeHandler"

/-- Bytes; a column may be a string and gives its UTF-8 form. -/
def bytes : Handler where
  tag := .builtIn bytesName
  name := bytesName
  toWire value _ :=
    match value with
    | .null | .bytes _ => .ok value
    | other => reject bytesName other
  fromWire value :=
    match value with
    | .null | .bytes _ => .ok value
    | .string s => .ok (.bytes s.toUTF8.toList)
    | other => reject bytesName other

/-! ## Everything else -/

/-- The name of the handler of everything else. -/
def unknownName : String := "UnknownTypeHandler"

/-- Sends scalars as they are and takes any column. -/
def unknown : Handler where
  tag := .builtIn unknownName
  name := unknownName
  toWire value wire :=
    if value.isScalar then .ok value
    else .error (.conversion (.unbindable value.label wire))
  fromWire value := .ok value

/-- All handlers that a registry starts with. -/
def builtIns : List Handler := [boolean, integer, long, double, string, bytes, unknown]

/-! ## Tracing -/

/-- Sends its own name, the wire type and the value as one text, and answers
a column with its name and the value; an absent column stays absent. -/
def tracing (name : String) : Handler where
  tag := .supplied name
  name := name
  toWire value wire := .ok (.string s!"{name}>{WireType.nameOrNull wire}>{value.text}")
  fromWire value :=
    if value.isNull then .ok .null else .ok (.string s!"{name}<{value.text}")

/-- The handler that a name denotes where handlers are given by name: a new
one of a built-in kind, or else a tracing one. -/
def named (name : String) : Handler :=
  match builtIns.find? fun handler => handler.name = name with
  | some handler => handler.withTag (.supplied name)
  | none => tracing name

end Handler

end SqlMapper
