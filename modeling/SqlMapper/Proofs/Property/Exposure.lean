import SqlMapper.Proofs.Property.NameIndex
import SqlMapper.Proofs.Property.Preference

/-!
# What a descriptor exposes

A descriptor can read the properties of the getter methods of its shape and the
fields, and write the properties of the setter methods and the fields that are
not read-only. Methods come first, and a field never takes the place of a
method. Nothing else is exposed.

## Main definitions

* `Exposes` — accessors that are those of methods and of fields.

## Main results

* `serves_methodGetters`, `serves_methodSetters` — which methods serve.
* `Serves.exposes` — fields behind the methods that serve.
* `Descriptor.exposes_declared` — a descriptor exposes what its shape declares.
-/

namespace SqlMapper

variable {family : Family} {type : TypeName} {shape : Shape} {d : Descriptor}

/-! ## Methods -/

/-- The type of the accessor that serves the property. -/
def servedType? {α : Type} (accessors : Entries (Accessor α)) (property : String) :
    Option ValueType :=
  (accessors.find? property).map Accessor.type

theorem servedType?_of_find? {α : Type} {accessors : Entries (Accessor α)} {property : String}
    {accessor : Accessor α} (h : accessors.find? property = some accessor) :
    servedType? accessors property = some accessor.type :=
  congrArg (Option.map Accessor.type) h

/-- The getter methods that serve. -/
theorem serves_methodGetters {getters : Entries (Accessor Reader)}
    (h : methodGetters family type shape = .ok getters) :
    Serves (chooseGetter family type) shape.getters getters :=
  serves_of_resolveGroups (fun _ _ => eq_nil_of_choose) h

/-- The setter methods that serve beside these getter methods. -/
theorem serves_methodSetters {getters : Entries (Accessor Reader)}
    {setters : Entries (Accessor Writer)}
    (h : methodSetters family type shape getters = .ok setters) :
    Serves (fun property => chooseSetter family type property (servedType? getters property))
      shape.setters setters :=
  serves_of_resolveGroups (fun _ _ => eq_nil_of_chooseSetter) h

/-! ## Methods and fields -/

/-- The accessors are those of the methods and then of the fields, by the names
that may be exposed, each where it is first declared. -/
structure Exposes {α : Type} (accessors : Entries (Accessor α)) (methods : List (Method α))
    (fields : Entries (Accessor α)) : Prop where
  /-- The name of every method is that of an accessor. -/
  addressed : ∀ method ∈ methods, ∃ property, propertyOfAccessor method.name = .ok property
  /-- The names are those of the methods and then of the fields. -/
  keys : accessors.keys =
    ((properties methods ++ fields.keys).filter isExposedName).eraseDups
  nodup : accessors.keys.Nodup
  /-- A property that methods address is served by one of these. -/
  method : ∀ property, isExposedName property = true → candidates methods property ≠ [] →
    ∃ method ∈ candidates methods property, accessors.find? property = some method.accessor
  /-- Any other property is served by the first field of that name, if there is
  one. -/
  field : ∀ property, isExposedName property = true → candidates methods property = [] →
    accessors.find? property = fields.find? property

/-- The fields behind methods that serve. -/
theorem Serves.exposes {α : Type}
    {choice : String → List (Method α) → Except Fault (Option (Method α))}
    {methods : List (Method α)} {accessors : Entries (Accessor α)}
    (h : Serves choice methods accessors)
    (hchoice : ∀ {property members method}, choice property members = .ok (some method) →
      method ∈ members) (fields : Entries (Accessor α)) :
    Exposes (accessors.fillFields fields) methods fields := by
  have hkeys : (accessors.fillFields fields).keys =
      ((properties methods ++ fields.keys).filter isExposedName).eraseDups := by
    rw [Entries.keys_fillFields h.keys, List.filter_append]
  refine ⟨?_, hkeys, hkeys ▸ nodup_eraseDups _, ?_, ?_⟩
  · intro method hmem
    obtain ⟨property, hproperty⟩ := Option.isSome_iff_exists.mp (h.addressed method hmem)
    exact ⟨property, Method.property?_eq_some_iff.mp hproperty⟩
  · intro property hexposed hne
    obtain ⟨method, hchosen, hfind⟩ := h.chosen property hexposed hne
    refine ⟨method, hchoice hchosen, ?_⟩
    rw [Entries.find?_fillFields, hfind]
    rfl
  · intro property hexposed hnone
    rw [Entries.find?_fillFields, h.find?_eq_none_iff.mpr fun _ => hnone, if_pos hexposed]
    rfl

/-- A descriptor exposes what its shape declares, and finds nothing else. -/
theorem Descriptor.exposes_declared (h : family.resolve type shape = .ok d) :
    Exposes d.getters shape.getters shape.readFields ∧
      Exposes d.setters shape.setters shape.writeFields ∧
      ∀ name property, d.findName name = some property → property ∈ d.exposed := by
  obtain ⟨getters, setters, hgetters, hsetters, heq, heq', -⟩ := exists_of_resolve h
  refine ⟨?_, ?_, fun _ _ => mem_exposed_of_findName h⟩
  · rw [heq]
    exact (serves_methodGetters hgetters).exposes decides_preferGetter.mem_of_choose _
  · rw [heq']
    exact (serves_methodSetters hsetters).exposes mem_of_chooseSetter _

/-- A method of devices that reads a slot. -/
def deviceGetter (name : String) (type : ValueType) (slot : String) : Method Reader :=
  { name, type, call := .slot "Device" slot }

/-- A field of devices with a slot of its own. -/
def deviceField (name : String) (writer : Option Writer) : Field :=
  { name, type := .string, reader := .slot "Device" name, writer }

/-- Devices, with two getters and two fields of one name each, and with names
that may not be exposed. -/
def devices : Shape where
  getters := [
    deviceGetter "getActive" .bool "on",
    deviceGetter "getClass" .string "kind",
    deviceGetter "isActive" .bool "on"]
  setters := [{ name := "setLabel", type := .string, call := .slot "Device" "label" .string }]
  fields := [
    deviceField "serial" none,
    deviceField "active" (some (.slot "Device" "on" .string)),
    deviceField "$version" (some (.slot "Device" "$version" .string)),
    deviceField "serial" (some (.slot "Device" "serial" .string))]

/-- `active` is written as a field although methods read it, and `serial` is
written as its second field. -/
theorem exposes_declared_devices :
    ∃ d, Family.resolve {} "Device" devices = .ok d ∧ d.getters.keys = ["active", "serial"] ∧
      d.setters.keys = ["label", "active", "serial"] ∧
      (∃ method ∈ candidates devices.getters "active",
        d.getters.find? "active" = some method.accessor) ∧
      d.setters.find? "serial" = devices.writeFields.find? "serial" := by
  obtain ⟨d, hd⟩ := exists_ok_of_toBool
    (show (Family.resolve {} "Device" devices).toBool = true by decide +kernel)
  obtain ⟨hread, hwritten, -⟩ := Descriptor.exposes_declared hd
  exact ⟨d, hd, hread.keys.trans (by decide +kernel), hwritten.keys.trans (by decide +kernel),
    hread.method "active" (by decide) (by decide +kernel),
    hwritten.field "serial" (by decide) (by decide +kernel)⟩

end SqlMapper
