import SqlMapper.Association
import SqlMapper.ValueType
import SqlMapper.Decimal.Positional

/-!
# Values: what flows between callers, statements and rows

A value is a scalar, a list, a map sorted by key, an ordered bag of named
parameters, or an instance of an object type. `null` stands for an absent
value.

## Main definitions

* `Value` — the type.
* `Value.type`, `Value.label` — the runtime type and its short name.
* `Value.text` — how a value shows in messages, logs and string columns.
-/

namespace SqlMapper

/-- A dynamically typed value. -/
inductive Value where
  /-- An absent value. -/
  | null
  | bool (b : Bool)
  /-- A 32-bit integer. -/
  | int (n : Int32)
  /-- A 64-bit integer. -/
  | long (n : Int64)
  | double (x : Float)
  | string (s : String)
  | bytes (bs : List UInt8)
  | list (items : List Value)
  /-- Named values sorted by name. -/
  | map (entries : List (String × Value))
  /-- The named arguments of one call, in the order of their first mention. -/
  | params (entries : List (String × Value))
  /-- An instance of an object type: what it holds in its slots, sorted by
  slot. -/
  | object (type : TypeName) (slots : List (String × Value))
  deriving Inhabited

namespace Value

/-! ## Kinds of value -/

/-- The value is absent. -/
def isNull : Value → Bool
  | null => true
  | _ => false

/-- The value is an instance of an object type. -/
def isObject : Value → Bool
  | object .. => true
  | _ => false

/-- The value is neither composite nor an instance: what a driver can bind. -/
def isScalar : Value → Bool
  | null | bool _ | int _ | long _ | double _ | string _ | bytes _ => true
  | list _ | map _ | params _ | object .. => false

/-- The runtime type of a value. An absent value has the universal type, and
a list says nothing about its elements. -/
def type : Value → ValueType
  | null => .any
  | bool _ => .bool
  | int _ => .int
  | long _ => .long
  | double _ => .double
  | string _ => .string
  | bytes _ => .bytes
  | list _ => .list .any
  | map _ => .map
  | params _ => .params
  | object type _ => .object type

/-- The short name of the runtime type, as messages and logs use it. -/
def label : Value → String
  | null => "null"
  | value => value.type.text

@[simp] theorem isNull_null : isNull null = true := rfl

theorem isNull_iff {v : Value} : v.isNull = true ↔ v = null := by
  cases v <;> simp [isNull]

/-! ## Text -/

mutual

/-- The text of a value. -/
def text : Value → String
  | null => "null"
  | bool b => if b then "true" else "false"
  | int n => Text.signedDecimal n.toInt
  | long n => Text.signedDecimal n.toInt
  | double x => Decimal.ofFloat x
  | string s => s
  | bytes bs => "\\x" ++ String.ofList (bs.flatMap Text.hexByte)
  | list items => "[" ++ ", ".intercalate (itemTexts items) ++ "]"
  | map entries => "\x7b" ++ ", ".intercalate (entryTexts entries) ++ "\x7d"
  | params entries => "\x7b" ++ ", ".intercalate (entryTexts entries) ++ "\x7d"
  | object type slots => type ++ "\x7b" ++ ", ".intercalate (entryTexts slots) ++ "\x7d"

/-- The texts of the elements of a list. -/
def itemTexts : List Value → List String
  | [] => []
  | item :: items => item.text :: itemTexts items

/-- The texts of named values: the name, an equals sign, the value. -/
def entryTexts : List (String × Value) → List String
  | [] => []
  | (key, value) :: entries => (key ++ "=" ++ value.text) :: entryTexts entries

end

end Value

end SqlMapper
