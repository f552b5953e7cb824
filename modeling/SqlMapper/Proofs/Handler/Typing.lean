import Mathlib.Logic.Basic
import SqlMapper.Handler.Registry

/-!
# The types of what handlers give

The built-in handlers give values of their own type only, whatever column they
take.

## Main definitions

* `Value.HasType` — the value is of exactly that type.
* `Handler.Gives` — the handler makes `null` or a value of the type of every
  column that it takes.

## Main results

* `HandlerRegistry.gives_of_find?_initial` — the built-in handlers give values
  of the type that they are found for.
-/

namespace SqlMapper

/-! ## Types of values -/

/-- The value is of the type. An element of a list may also be absent. -/
inductive Value.HasType : Value → ValueType → Prop where
  | any (v : Value) : HasType v .any
  | bool (b : Bool) : HasType (.bool b) .bool
  | int (n : Int32) : HasType (.int n) .int
  | long (n : Int64) : HasType (.long n) .long
  | double (x : Float) : HasType (.double x) .double
  | string (s : String) : HasType (.string s) .string
  | bytes (bs : List UInt8) : HasType (.bytes bs) .bytes
  | list {items : List Value} {element : ValueType}
      (helement : ∀ item ∈ items, item ≠ .null → HasType item element) :
      HasType (.list items) (.list element)
  | map (entries : List (String × Value)) : HasType (.map entries) .map
  | params (entries : List (String × Value)) : HasType (.params entries) .params
  | object (type : TypeName) (slots : List (String × Value)) :
      HasType (.object type slots) (.object type)

/-- The value is absent or of the type. -/
def Value.HasTypeOrNull (v : Value) (type : ValueType) : Prop := v = .null ∨ v.HasType type

/-- Whether a value is of a type can be told from the value. -/
def Value.hasType (v : Value) (type : ValueType) : Bool :=
  match type, v with
  | .any, _ | .bool, bool _ | .int, int _ | .long, long _ | .double, double _
  | .string, string _ | .bytes, bytes _ | .map, map _ | .params, params _ => true
  | .list element, list items => items.all fun item => item.isNull || item.hasType element
  | .object name, object found _ => found = name
  | _, _ => false

theorem Value.hasType_iff {v : Value} {type : ValueType} :
    v.hasType type = true ↔ v.HasType type := by
  induction type generalizing v with
  | any => exact iff_of_true rfl (.any v)
  | list element ih =>
      cases v with
      | list items =>
          have hitem (item : Value) : (item.isNull || item.hasType element) = true ↔
              (item ≠ .null → item.HasType element) := by
            rw [Bool.or_eq_true, isNull_iff, ih]
            exact or_iff_not_imp_left
          show (items.all fun item => item.isNull || item.hasType element) = true ↔ _
          rw [List.all_eq_true]
          constructor
          · exact fun h => .list fun item hmem => (hitem item).mp (h item hmem)
          · rintro ⟨⟩
            rename_i helement
            exact fun item hmem => (hitem item).mpr (helement item hmem)
      | _ => exact iff_of_false Bool.false_ne_true nofun
  | object name =>
      cases v with
      | object found slots =>
          show decide (found = name) = true ↔ _
          rw [decide_eq_true_iff]
          constructor
          · rintro rfl
            exact .object found slots
          · rintro ⟨⟩
            rfl
      | _ => exact iff_of_false Bool.false_ne_true nofun
  | _ =>
      cases v <;> first
        | exact iff_of_false Bool.false_ne_true nofun
        | exact iff_of_true rfl (by constructor)

instance (v : Value) (type : ValueType) : Decidable (v.HasType type) :=
  decidable_of_iff _ Value.hasType_iff

instance (v : Value) (type : ValueType) : Decidable (v.HasTypeOrNull type) :=
  decidable_of_iff (v.isNull = true ∨ v.HasType type) (or_congr Value.isNull_iff Iff.rfl)

/-! ## Built-in handlers -/

/-- Whatever column the handler takes, it makes `null` or a value of the type
of it. -/
def Handler.Gives (handler : Handler) (type : ValueType) : Prop :=
  ∀ column value, handler.fromWire column = .ok value → value.HasTypeOrNull type

namespace Handler

theorem gives_boolean : boolean.Gives .bool := by
  intro column value h
  cases column with
  | null =>
      cases h
      exact .inl rfl
  | bool _ | int _ | long _ =>
      cases h
      exact .inr (.bool _)
  | _ => cases h

theorem gives_integer : integer.Gives .int := by
  intro column value h
  cases column with
  | null =>
      cases h
      exact .inl rfl
  | bool _ | int _ =>
      cases h
      exact .inr (.int _)
  | long n =>
      have hnarrow : narrow integerName n = .ok value := h
      unfold narrow at hnarrow
      split at hnarrow <;> cases hnarrow
      exact .inr (.int _)
  | _ => cases h

theorem gives_long : long.Gives .long := by
  intro column value h
  cases column with
  | null =>
      cases h
      exact .inl rfl
  | int _ | long _ =>
      cases h
      exact .inr (.long _)
  | _ => cases h

theorem gives_double : double.Gives .double := by
  intro column value h
  cases column with
  | null =>
      cases h
      exact .inl rfl
  | int _ | long _ | double _ =>
      cases h
      exact .inr (.double _)
  | _ => cases h

theorem gives_string : string.Gives .string := by
  intro column value h
  cases column with
  | null =>
      cases h
      exact .inl rfl
  | bool _ | int _ | long _ | double _ | string _ =>
      cases h
      exact .inr (.string _)
  | _ => cases h

theorem gives_bytes : bytes.Gives .bytes := by
  intro column value h
  cases column with
  | null =>
      cases h
      exact .inl rfl
  | string _ | bytes _ =>
      cases h
      exact .inr (.bytes _)
  | _ => cases h

theorem gives_unknown : unknown.Gives .any := fun _ value _ => .inr (.any value)

end Handler

namespace HandlerRegistry

/-- No object type has a built-in handler. -/
theorem find?_initial_object (family : Family) (type : TypeName) :
    initial.find? family (.object type) none = none := by
  unfold find? findAmong candidates
  rw [List.findSome?_eq_none_iff]
  intro candidate hmem
  obtain ⟨name, -, rfl⟩ := List.mem_map.mp hmem
  rfl

/-- The built-in handlers give values of the type that they are found for. -/
theorem gives_of_find?_initial {family : Family} {type : ValueType} {handler : Handler}
    (h : initial.find? family type none = some handler) : handler.Gives type := by
  cases type with
  | any =>
      obtain rfl : Handler.unknown = handler := Option.some.inj h
      exact Handler.gives_unknown
  | bool =>
      obtain rfl : Handler.boolean = handler := Option.some.inj h
      exact Handler.gives_boolean
  | int =>
      obtain rfl : Handler.integer = handler := Option.some.inj h
      exact Handler.gives_integer
  | long =>
      obtain rfl : Handler.long = handler := Option.some.inj h
      exact Handler.gives_long
  | double =>
      obtain rfl : Handler.double = handler := Option.some.inj h
      exact Handler.gives_double
  | string =>
      obtain rfl : Handler.string = handler := Option.some.inj h
      exact Handler.gives_string
  | bytes =>
      obtain rfl : Handler.bytes = handler := Option.some.inj h
      exact Handler.gives_bytes
  | list element => cases h
  | map => cases h
  | params => cases h
  | object type =>
      rw [find?_initial_object] at h
      cases h

end HandlerRegistry

end SqlMapper
