import Mathlib.Logic.Function.Iterate
import SqlMapper.Proofs.Association
import SqlMapper.Proofs.Run
import SqlMapper.Property.Shape

/-!
# Typed values: what conversions give

A typed setter takes a value of its own type, and a typed getter gives one. A
conversion stands between the two and dynamic values: it reads a typed value out of a
dynamic one, and the typed value becomes dynamic again when it is stored or given.

Reading is not the inverse of that. Many dynamic values are read as one typed value, an
integer of either width as a double for one. And an optional optional number knows two
ways of being absent, which are one and the same `null`, so that not every typed value
is read back. What has been read once is read back, though, because nothing present is
ever read as something that becomes `null`. A property that was written can therefore be
read and written back any number of times.

## Main definitions

* `Conversion.Target` — the typed values of a conversion.
* `Conversion.fromValue`, `Conversion.toValue` — from dynamic values and back.
* `Writer.MatchedBy` — a getter gives what a setter has stored.
* `Writer.rewrites` — a property read and written back, several times.

## Main results

* `Conversion.apply_eq` — a conversion reads a typed value and makes it dynamic again.
* `Conversion.fromValue_toValue` — what has been read once is read back.
* `Conversion.settles` — conversions settle after one step, and so do properties.
-/

namespace SqlMapper

namespace Conversion

/-! ## Typed values -/

/-- The typed values that a conversion gives. -/
def Target : Conversion → Type
  | any => Value
  | bool => Bool
  | int => Int32
  | long => Int64
  | double => Float
  | string => String
  | bytes => List UInt8
  | instanceOf _ => Slots
  | optional inner => Option inner.Target
  | listOf inner => List inner.Target

/-- The typed value that a dynamic value is read as. -/
def fromValue : (conversion : Conversion) → Value → Except Fault conversion.Target
  | any, v => .ok v
  | bool, v =>
      match v with
      | .bool b => .ok b
      | v => .error (.conversion (.unexpected "boolean" v))
  | int, v =>
      match v with
      | .int n => .ok n
      | .long n =>
          if fitsInt n.toInt then .ok (Int32.ofInt n.toInt)
          else .error (.conversion (.tooWide n))
      | v => .error (.conversion (.unexpected "int" v))
  | long, v =>
      match v with
      | .int n => .ok (Int64.ofInt n.toInt)
      | .long n => .ok n
      | v => .error (.conversion (.unexpected "long" v))
  | double, v =>
      match v with
      | .double x => .ok x
      | .int n => .ok (nearestDouble n.toInt)
      | .long n => .ok (nearestDouble n.toInt)
      | v => .error (.conversion (.unexpected "double" v))
  | string, v =>
      match v with
      | .string s => .ok s
      | v => .error (.conversion (.unexpected "string" v))
  | bytes, v =>
      match v with
      | .bytes bs => .ok bs
      | v => .error (.conversion (.unexpected "bytes" v))
  | instanceOf type, v =>
      match v with
      | .object found slots =>
          if found = type then .ok slots else .error (.conversion (.notInstance type found))
      | v => .error (.conversion (.notInstance type v.label))
  | optional inner, v =>
      match v with
      | .null => .ok none
      | v => (inner.fromValue v).map some
  | listOf inner, v =>
      match v with
      | .list items => items.mapM inner.fromValue
      | v => .error (.conversion (.unexpected "list" v))

/-- The dynamic value that a typed value becomes. -/
def toValue : (conversion : Conversion) → conversion.Target → Value
  | any, v => v
  | bool, b => .bool b
  | int, n => .int n
  | long, n => .long n
  | double, x => .double x
  | string, s => .string s
  | bytes, bs => .bytes bs
  | instanceOf type, slots => .object type slots
  | optional inner, x =>
      match x with
      | none => .null
      | some x => inner.toValue x
  | listOf inner, xs => .list (xs.map inner.toValue)

variable {conversion inner : Conversion} {value taken : Value}

theorem fromValue_optional (h : value ≠ .null) :
    (optional inner).fromValue value = (inner.fromValue value).map some := by
  cases value with
  | null => exact absurd rfl h
  | _ => rfl

theorem exists_of_fromValue_optional {x : (optional inner).Target}
    (h : (optional inner).fromValue value = .ok x) (hvalue : value ≠ .null) :
    ∃ y, inner.fromValue value = .ok y ∧ x = some y := by
  rw [fromValue_optional hvalue] at h
  rcases hy : inner.fromValue value with _ | y <;> rw [hy] at h
  · cases h
  · exact ⟨y, rfl, (Except.ok.inj h).symm⟩

theorem exists_of_fromValue_listOf {xs : List inner.Target}
    (h : (listOf inner).fromValue value = .ok xs) :
    ∃ items, value = .list items ∧ items.mapM inner.fromValue = .ok xs := by
  cases value with
  | list items => exact ⟨items, rfl, h⟩
  | _ => cases h

/-! ## Conversions through typed values -/

/-- A conversion reads a typed value and makes it dynamic again. -/
theorem apply_eq (conversion : Conversion) (value : Value) :
    conversion.apply value = (conversion.fromValue value).map conversion.toValue := by
  induction conversion generalizing value with
  | any => rfl
  | bool | long | double | string | bytes => cases value <;> rfl
  | int =>
      cases value with
      | long n =>
          unfold apply fromValue
          dsimp only
          split <;> rfl
      | _ => rfl
  | instanceOf type =>
      cases value with
      | object found slots =>
          unfold apply fromValue
          dsimp only
          split
          · next htype =>
              subst htype
              rfl
          · rfl
      | _ => rfl
  | optional inner ih =>
      by_cases hvalue : value = .null
      · subst hvalue
        rfl
      · rw [apply_optional hvalue, ih, fromValue_optional hvalue]
        rcases inner.fromValue value with _ | x <;> rfl
  | listOf inner ih =>
      cases value with
      | list items =>
          show (items.mapM inner.apply >>= fun taken => .ok (.list taken)) =
            (items.mapM inner.fromValue).map (listOf inner).toValue
          rw [mapM_eq_map ih]
          rcases items.mapM inner.fromValue with _ | xs <;> rfl
      | _ => rfl

theorem apply_eq_ok_iff :
    conversion.apply value = .ok taken ↔
      ∃ x, conversion.fromValue value = .ok x ∧ conversion.toValue x = taken := by
  rw [apply_eq]
  rcases conversion.fromValue value with _ | x
  · exact iff_of_false nofun fun ⟨_, hx, _⟩ => nomatch hx
  · refine ⟨fun h => ⟨x, rfl, Except.ok.inj h⟩, ?_⟩
    rintro ⟨y, hy, rfl⟩
    rw [Except.ok.inj hy]
    rfl

/-! ## Once is enough -/

/-- Nothing present is read as something that becomes `null`. -/
theorem toValue_ne_null {x : conversion.Target} (h : conversion.fromValue value = .ok x)
    (hvalue : value ≠ .null) : conversion.toValue x ≠ .null := by
  induction conversion with
  | any =>
      obtain rfl := Except.ok.inj h
      exact hvalue
  | optional inner ih =>
      obtain ⟨y, hy, rfl⟩ := exists_of_fromValue_optional h hvalue
      exact ih hy
  | _ => exact fun hnull => nomatch hnull

/-- A list is read back if its elements are. -/
theorem mapM_fromValue_map {xs : List inner.Target}
    (h : ∀ x ∈ xs, inner.fromValue (inner.toValue x) = .ok x) :
    (xs.map inner.toValue).mapM inner.fromValue = .ok xs := by
  rw [mapM_eq_ok_iff, List.forall₂_map_left_iff, List.forall₂_same]
  exact h

/-- What has been read once is read back. -/
theorem fromValue_toValue {x : conversion.Target} (h : conversion.fromValue value = .ok x) :
    conversion.fromValue (conversion.toValue x) = .ok x := by
  induction conversion generalizing value with
  | any | bool | int | long | double | string | bytes => rfl
  | instanceOf type => exact if_pos rfl
  | optional inner ih =>
      by_cases hvalue : value = .null
      · subst hvalue
        cases h
        rfl
      · obtain ⟨y, hy, rfl⟩ := exists_of_fromValue_optional h hvalue
        -- the typed value is still present when it is read again
        show (optional inner).fromValue (inner.toValue y) = .ok (some y)
        rw [fromValue_optional (toValue_ne_null hy hvalue), ih hy]
        rfl
  | listOf inner ih =>
      obtain ⟨items, -, hitems⟩ := exists_of_fromValue_listOf h
      refine mapM_fromValue_map fun y hy => ?_
      obtain ⟨item, -, hitem⟩ := exists_of_mapM_ok hitems hy
      exact ih hitem

/-- A typed value that is never read need not be read back: a number that is present but
absent inside comes back as absent altogether. -/
example :
    (optional (optional int)).fromValue ((optional (optional int)).toValue (some none)) =
      .ok none := rfl

/-- A converted value is in the form of the conversion. -/
theorem apply_of_apply (h : conversion.apply value = .ok taken) :
    conversion.apply taken = .ok taken := by
  obtain ⟨x, hx, rfl⟩ := apply_eq_ok_iff.mp h
  exact apply_eq_ok_iff.mpr ⟨x, fromValue_toValue hx, rfl⟩

end Conversion

/-! ## Properties -/

namespace Writer

variable {writer : Writer} {reader : Reader} {type : TypeName} {slots changed : Slots}
  {value stored : Value}

/-- The getter gives what the setter has stored. -/
structure MatchedBy (writer : Writer) (reader : Reader) : Prop where
  owner : reader.owner = writer.owner
  read : ∀ value stored slots, writer.conversion.apply value = .ok stored →
    reader.read (writer.store stored slots) = stored

/-- Reads the property of an instance and writes back what was read, several times. -/
def rewrites (writer : Writer) (reader : Reader) (type : TypeName) :
    Nat → Slots → Except Fault Slots
  | 0, slots => .ok slots
  | n + 1, slots => do
      let changed ← writer.invoke type slots (← reader.invoke type slots)
      rewrites writer reader type n changed

theorem invoke_eq_ok_iff :
    writer.invoke type slots value = .ok changed ↔
      type = writer.owner ∧ ∃ stored, writer.conversion.apply value = .ok stored ∧
        writer.store stored slots = changed := by
  unfold invoke
  rcases writer.conversion.apply value with _ | stored
  · exact iff_of_false nofun fun ⟨_, _, hstored, _⟩ => nomatch hstored
  · show (if type = writer.owner then Except.ok (writer.store stored slots) else _) = _ ↔ _
    split
    · next htype => simp [htype]
    · next htype => exact iff_of_false nofun fun ⟨htype', _⟩ => htype htype'

namespace MatchedBy

theorem invoke_eq (hmatch : writer.MatchedBy reader) (htype : type = writer.owner)
    (hread : reader.read slots = stored) : reader.invoke type slots = .ok stored := by
  rw [Reader.invoke, if_pos (htype.trans hmatch.owner.symm), hread]

/-- Writing back what a property reads stores it once more, and the property reads the
same. -/
theorem rewrites_eq (hmatch : writer.MatchedBy reader) (htype : type = writer.owner)
    (hform : writer.conversion.apply stored = .ok stored) (hread : reader.read slots = stored)
    (n : Nat) :
    writer.rewrites reader type n slots = .ok ((writer.store stored)^[n] slots) ∧
      reader.read ((writer.store stored)^[n] slots) = stored := by
  induction n generalizing slots with
  | zero => exact ⟨rfl, hread⟩
  | succ n ih =>
      have hwrite : writer.invoke type slots stored = .ok (writer.store stored slots) :=
        invoke_eq_ok_iff.mpr ⟨htype, stored, hform, rfl⟩
      rw [rewrites, hmatch.invoke_eq htype hread]
      show (writer.invoke type slots stored >>= _) = _ ∧ _
      rw [hwrite]
      exact ih (hmatch.read stored stored slots hform)

end MatchedBy

/-- The setter of a slot is matched by its getter, and storing a value twice is storing
it once. -/
theorem matchedBy_slot (owner name : String) (conversion : Conversion) :
    (slot owner name conversion).MatchedBy (.slot owner name) ∧
      ∀ stored slots, (slot owner name conversion).store stored
        ((slot owner name conversion).store stored slots) =
          (slot owner name conversion).store stored slots := by
  refine ⟨⟨rfl, fun value stored slots _ => ?_⟩, fun stored slots => Entries.insert_insert _ _⟩
  show (Entries.find? name (Entries.insert name stored slots)).getD .null = stored
  rw [Entries.find?_insert, if_pos rfl]
  rfl

end Writer

namespace Conversion

/-- A conversion reads a typed value and makes it dynamic again, and it settles after one
step: what a typed value has become is read as the same typed value. So a property that
was written can be read and written back any number of times. It reads the typed value
that was written, and where storing a value twice is storing it once, the instance stays
as it is. -/
theorem settles :
    (∀ (conversion : Conversion) (value : Value),
      conversion.apply value = (conversion.fromValue value).map conversion.toValue) ∧
    (∀ (conversion : Conversion) (value : Value) (x : conversion.Target),
      conversion.fromValue value = .ok x →
        conversion.fromValue (conversion.toValue x) = .ok x) ∧
    ∀ (writer : Writer) (reader : Reader), writer.MatchedBy reader →
      ∀ type slots value changed, writer.invoke type slots value = .ok changed →
        ∃ x, writer.conversion.fromValue value = .ok x ∧
          ∀ n, ∃ again, writer.rewrites reader type n changed = .ok again ∧
            reader.invoke type again = .ok (writer.conversion.toValue x) ∧
            ((∀ stored slots, writer.store stored (writer.store stored slots) =
              writer.store stored slots) → again = changed) := by
  refine ⟨apply_eq, fun _ _ _ => fromValue_toValue, ?_⟩
  intro writer reader hmatch type slots value changed hwrite
  obtain ⟨htype, stored, happly, rfl⟩ := Writer.invoke_eq_ok_iff.mp hwrite
  obtain ⟨x, hx, rfl⟩ := apply_eq_ok_iff.mp happly
  refine ⟨x, hx, fun n => ?_⟩
  obtain ⟨hrewrites, hread⟩ :=
    hmatch.rewrites_eq htype (apply_of_apply happly) (hmatch.read value _ slots happly) n
  exact ⟨_, hrewrites, hmatch.invoke_eq htype hread,
    fun honce => Function.iterate_fixed (honce _ slots) n⟩

/-- A list of readings, some of them missing, is read back as it was read, although one
reading comes with 64 bits. The property that holds it can be written back three times
without a change. -/
theorem settles_readings :
    let readings := optional (listOf (optional int))
    let given := Value.list [.long 7, .null]
    let typed : Option (List (Option Int32)) := some [some 7, none]
    let setter := Writer.slot "Sensor" "readings" readings
    let getter := Reader.slot "Sensor" "readings"
    let stored : Slots := [("readings", .list [.int 7, .null])]
    (readings.fromValue given = .ok typed ∧
        readings.fromValue (readings.toValue typed) = .ok typed) ∧
      setter.MatchedBy getter ∧ setter.invoke "Sensor" [] given = .ok stored ∧
        setter.rewrites getter "Sensor" 3 stored = .ok stored := by
  intro readings given typed setter getter stored
  have hread : readings.fromValue given = .ok typed := rfl
  have hwrite : setter.invoke "Sensor" [] given = .ok stored := rfl
  obtain ⟨hmatch, honce⟩ := Writer.matchedBy_slot "Sensor" "readings" readings
  obtain ⟨-, hsettles, hproperty⟩ := settles
  obtain ⟨x, -, hrewrites⟩ := hproperty setter getter hmatch _ _ _ _ hwrite
  obtain ⟨again, hagain, -, hsame⟩ := hrewrites 3
  obtain rfl := hsame honce
  exact ⟨⟨hread, hsettles _ _ _ hread⟩, hmatch, hwrite, hagain⟩

end Conversion

end SqlMapper
