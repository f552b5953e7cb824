import SqlMapper.Fault
import SqlMapper.Value.Json

/-!
# Conversions: from a dynamic value to a typed one

A typed setter and a typed caller accept a value only in the form of their
own type. A conversion says which form that is: it gives the value in that
form or says why there is none. Integers are widened where nothing is lost
and narrowed only if they fit; an optional form lets `null` through; a list
form converts element by element.
-/

namespace SqlMapper

/-- The form that a typed place asks of a value. -/
inductive Conversion where
  /-- Any value, as it is. -/
  | any
  | bool
  | int
  | long
  | double
  | string
  | bytes
  /-- An instance of one object type. -/
  | instanceOf (type : TypeName)
  /-- `null`, or a value of the inner form. -/
  | optional (inner : Conversion)
  /-- A list whose elements have the inner form. -/
  | listOf (inner : Conversion)
  deriving DecidableEq, Repr, Inhabited

namespace Conversion

/-- The value in the form of the conversion. -/
def apply : Conversion → Value → Except Fault Value
  | any, v => .ok v
  | bool, v =>
      match v with
      | .bool b => .ok (.bool b)
      | v => .error (.conversion (.unexpected "boolean" v))
  | int, v =>
      match v with
      | .int n => .ok (.int n)
      | .long n =>
          if fitsInt n.toInt then .ok (.int (Int32.ofInt n.toInt))
          else .error (.conversion (.tooWide n))
      | v => .error (.conversion (.unexpected "int" v))
  | long, v =>
      match v with
      | .int n => .ok (.long (Int64.ofInt n.toInt))
      | .long n => .ok (.long n)
      | v => .error (.conversion (.unexpected "long" v))
  | double, v =>
      match v with
      | .double x => .ok (.double x)
      | .int n => .ok (.double (nearestDouble n.toInt))
      | .long n => .ok (.double (nearestDouble n.toInt))
      | v => .error (.conversion (.unexpected "double" v))
  | string, v =>
      match v with
      | .string s => .ok (.string s)
      | v => .error (.conversion (.unexpected "string" v))
  | bytes, v =>
      match v with
      | .bytes bs => .ok (.bytes bs)
      | v => .error (.conversion (.unexpected "bytes" v))
  | instanceOf type, v =>
      match v with
      | .object found slots =>
          if found = type then .ok (.object found slots)
          else .error (.conversion (.notInstance type found))
      | v => .error (.conversion (.notInstance type v.label))
  | optional inner, v =>
      match v with
      | .null => .ok .null
      | v => inner.apply v
  | listOf inner, v =>
      match v with
      | .list items => do return .list (← items.mapM inner.apply)
      | v => .error (.conversion (.unexpected "list" v))

/-- A typed place that may stay empty takes `null`, and anything else as the typed place
that may not. -/
theorem apply_optional {inner : Conversion} {v : Value} (h : v ≠ .null) :
    (optional inner).apply v = inner.apply v := by
  cases v with
  | null => exact absurd rfl h
  | _ => rfl

/-- The instances that a list of one object type holds. -/
def applyInstances (type : TypeName) : Value → Except Fault Value
  | .list items => do return .list (← items.mapM (instanceOf type).apply)
  | v => .error (.conversion (.notInstances type v.label))

/-- The conversion that a typed place of the given type uses by default:
scalars convert, everything else is taken as it is. -/
def ofType : ValueType → Conversion
  | .bool => bool
  | .int => int
  | .long => long
  | .double => double
  | .string => string
  | .bytes => bytes
  | _ => any

end Conversion

end SqlMapper
