import SqlMapper.Proofs.Property.Keys
import SqlMapper.Proofs.Property.Members

/-!
# Records: types with a slot for each field

The accessors of an object type may compute anything. Those of a record only
read and fill one slot for each of its fields, and are faithful for it.

## Main definitions

* `SlotAccessors` — the properties of a descriptor are slots.
* `Shape.IsRecord` — the fields of a shape are slots, and there is nothing
  else.

## Main results

* `FaithfulAccessors.of_slots` — accessors of slots are faithful.
* `Family.faithful_of_records`, `Family.faithful_of_shapes` — the accessors of
  records are faithful.
* `Shape.isRecord_of_slots` — what makes a record.
-/

namespace SqlMapper

/-! ## Slots -/

/-- Every property has a slot of its own, and its setter takes the values of
the given kind as they are. -/
structure SlotAccessors (d : Descriptor) (type : TypeName) (kept : Value → Prop) : Prop where
  getter : ∀ {property accessor}, d.getter property = .ok accessor →
    accessor.call = .slot type property
  setter : ∀ {property accessor}, d.setter property = .ok accessor →
    (∃ conversion, accessor.call = .slot type property conversion ∧
      ∀ value, kept value → ∀ taken, conversion.apply value = .ok taken → taken = value) ∧
    ∃ getter, d.getter property = .ok getter

theorem Reader.invoke_slot (owner : TypeName) (slot : String) (slots : Slots) :
    (Reader.slot owner slot).invoke owner slots = .ok ((Entries.find? slot slots).getD .null) :=
  if_pos rfl

theorem Writer.invoke_slot (owner : TypeName) (slot : String) (conversion : Conversion)
    (slots : Slots) (value : Value) :
    (Writer.slot owner slot conversion).invoke owner slots value =
      (conversion.apply value).map fun taken => Entries.insert slot taken slots := by
  show (conversion.apply value >>= fun taken => if owner = owner then
    .ok (Entries.insert slot taken slots) else _) = _
  rcases conversion.apply value with fault | taken
  · rfl
  · exact if_pos rfl

/-- Accessors of slots are faithful. -/
theorem FaithfulAccessors.of_slots {describe : Describe} {kept : Value → Prop}
    (hcomposite : ∀ {value : Value}, value.isScalar = false → kept value)
    (hslots : ∀ {type d}, describe type = .ok d → SlotAccessors d type kept) :
    FaithfulAccessors describe kept := by
  -- a write fills the slot of the property
  have hstored {type slots property value changed}
      (h : (Value.object type slots).storeProperty describe property value = .ok changed) :
      ∃ d taken, describe type = .ok d ∧ (∃ getter, d.getter property = .ok getter) ∧
        (kept value → taken = value) ∧
        changed = .object type (Entries.insert property taken slots) := by
    obtain ⟨accessor, haccessor, h⟩ := exists_of_bind_ok h
    obtain ⟨filled, hfilled, h⟩ := exists_of_bind_ok h
    obtain ⟨d, hd, hsetter⟩ := exists_of_bind_ok haccessor
    obtain ⟨⟨conversion, hcall, htakes⟩, hgetter⟩ := (hslots hd).setter hsetter
    cases h
    rw [hcall, Writer.invoke_slot] at hfilled
    rcases htaken : conversion.apply value with fault | taken <;> rw [htaken] at hfilled <;>
      cases hfilled
    exact ⟨d, taken, hd, hgetter, fun hkept => htakes value hkept taken htaken, rfl⟩
  -- a read takes what is in the slot of the property, if there is such a property
  have hread {type d} (property : String) (slots : Slots) (hd : describe type = .ok d) :
      (Value.object type slots).readProperty describe property =
        (d.getter property).map fun _ => (Entries.find? property slots).getD .null := by
    show (describe type >>= fun d => d.getter property >>= fun accessor =>
      accessor.call.invoke type slots) = _
    rw [hd]
    show (d.getter property >>= fun accessor => accessor.call.invoke type slots) = _
    rcases hgetter : d.getter property with fault | getter
    · rfl
    · show getter.call.invoke type slots = _
      rw [(hslots hd).getter hgetter, Reader.invoke_slot]
      rfl
  constructor
  · exact hcomposite
  · intro type slots property value changed hkept h
    obtain ⟨d, taken, hd, ⟨getter, hgetter⟩, htaken, rfl⟩ := hstored h
    rw [hread property _ hd, hgetter, htaken hkept, Entries.find?_insert, if_pos rfl]
    rfl
  · intro type slots property other value changed hne h
    obtain ⟨d, taken, hd, -, -, rfl⟩ := hstored h
    rw [hread other _ hd, hread other _ hd, Entries.find?_insert, if_neg hne]

/-! ## Records -/

/-- The type has no accessor methods, and each of its fields is a slot of its
own whose setter takes the values of the given kind as they are. -/
structure Shape.IsRecord (shape : Shape) (type : TypeName) (kept : Value → Prop) : Prop where
  getters : shape.getters = []
  setters : shape.setters = []
  reader : ∀ field ∈ shape.fields, field.reader = .slot type field.name
  writer : ∀ field ∈ shape.fields, ∀ writer, field.writer = some writer →
    ∃ conversion, writer = .slot type field.name conversion ∧
      ∀ value, kept value → ∀ taken, conversion.apply value = .ok taken → taken = value

/-- A record is read as its fields and written as those of them that can be. -/
theorem Shape.IsRecord.accessors {family : Family} {shape : Shape} {type : TypeName}
    {kept : Value → Prop} (hrecord : shape.IsRecord type kept) {d : Descriptor}
    (h : family.resolve type shape = .ok d) :
    d.getters = Entries.fillFields [] shape.readFields ∧
      d.setters = Entries.fillFields [] shape.writeFields := by
  obtain ⟨getters, setters, hgetters, hsetters, heq, heq', -⟩ := Descriptor.exists_of_resolve h
  rw [methodGetters, hrecord.getters] at hgetters
  rw [methodSetters, hrecord.setters] at hsetters
  cases hgetters
  cases hsetters
  exact ⟨heq, heq'⟩

/-- The properties of a record are slots. -/
theorem Shape.IsRecord.slotAccessors {family : Family} {shape : Shape} {type : TypeName}
    {kept : Value → Prop} (hrecord : shape.IsRecord type kept) {d : Descriptor}
    (h : family.resolve type shape = .ok d) : SlotAccessors d type kept := by
  obtain ⟨hgetters, hsetters⟩ := hrecord.accessors h
  constructor
  · intro property accessor h
    rw [Descriptor.getter_eq_ok_iff, hgetters, Entries.find?_fillFields, Entries.find?_nil,
      Option.none_or] at h
    split at h
    · obtain ⟨field, hmem, rfl, rfl⟩ := mem_readFields_iff.mp (Entries.mem_of_find? h)
      exact hrecord.reader field hmem
    · cases h
  · intro property accessor h
    rw [Descriptor.setter_eq_ok_iff, hsetters, Entries.find?_fillFields, Entries.find?_nil,
      Option.none_or] at h
    split at h
    · next hexposed =>
        obtain ⟨field, hmem, rfl, haccessor⟩ := mem_writeFields_iff.mp (Entries.mem_of_find? h)
        obtain ⟨writer, hwriter, rfl⟩ := Option.map_eq_some_iff.mp haccessor
        refine ⟨hrecord.writer field hmem writer hwriter, ?_⟩
        -- every field that may be exposed can be read
        have hlisted : field.name ∈ shape.readFields.keys :=
          List.mem_map.mpr ⟨_, mem_readFields_iff.mpr ⟨field, hmem, rfl, rfl⟩, rfl⟩
        obtain ⟨getter, hgetter⟩ := Option.isSome_iff_exists.mp
          (Entries.find?_isSome_iff.mpr hlisted)
        refine ⟨getter, ?_⟩
        rw [Descriptor.getter_eq_ok_iff, hgetters, Entries.find?_fillFields, Entries.find?_nil,
          if_pos hexposed, hgetter]
        rfl
    · cases h

/-- The accessors of records are faithful. -/
theorem Family.faithful_of_records {family : Family} {kept : Value → Prop}
    (hcomposite : ∀ {value : Value}, value.isScalar = false → kept value)
    (hrecords : ∀ type, (family.shape type).IsRecord type kept) :
    FaithfulAccessors family.describe kept :=
  .of_slots hcomposite fun hdescribe => (hrecords _).slotAccessors hdescribe

/-- A type that nothing is known about is a record without fields, so only the
known shapes count. -/
theorem Family.faithful_of_shapes {family : Family} {kept : Value → Prop}
    (hcomposite : ∀ {value : Value}, value.isScalar = false → kept value)
    (hrecords : ∀ entry ∈ family.shapes, entry.2.IsRecord entry.1 kept) :
    FaithfulAccessors family.describe kept := by
  refine family.faithful_of_records hcomposite fun type => ?_
  unfold Family.shape
  rcases hfind : family.shapes.find? type with _ | shape
  · exact ⟨rfl, rfl, fun _ hmem => absurd hmem List.not_mem_nil,
      fun _ hmem => absurd hmem List.not_mem_nil⟩
  · exact hrecords (type, shape) (Entries.mem_of_find? hfind)

/-! ## Fields that take values as they are -/

/-- A field with a slot of its own. -/
def Field.ofSlot (owner name : String) (type : ValueType) (conversion : Conversion) : Field :=
  { name, type, reader := .slot owner name, writer := some (.slot owner name conversion) }

/-- The conversion takes a value as it is or not at all. -/
def Conversion.Exact (conversion : Conversion) : Prop :=
  ∀ value taken, conversion.apply value = .ok taken → taken = value

theorem Conversion.exact_string : Conversion.string.Exact := by
  intro value taken h
  cases value <;> cases h
  rfl

theorem Conversion.exact_instanceOf (type : TypeName) : (Conversion.instanceOf type).Exact := by
  intro value taken h
  cases value with
  | object found slots =>
      unfold Conversion.apply at h
      dsimp only at h
      split at h <;> cases h
      rfl
  | _ => cases h

theorem Conversion.Exact.optional {inner : Conversion} (h : inner.Exact) :
    (Conversion.optional inner).Exact := by
  intro value taken happly
  cases value with
  | null =>
      cases happly
      rfl
  | _ => exact h _ _ happly

/-- Fields with slots of their own that take values as they are make a
record. -/
theorem Shape.isRecord_of_slots {shape : Shape} {type : TypeName} (hgetters : shape.getters = [])
    (hsetters : shape.setters = [])
    (hfields : ∀ field ∈ shape.fields, ∃ conversion : Conversion, conversion.Exact ∧
      field = .ofSlot type field.name field.type conversion) :
    shape.IsRecord type fun _ => True where
  getters := hgetters
  setters := hsetters
  reader field hmem := by
    obtain ⟨conversion, -, heq⟩ := hfields field hmem
    rw [heq]
    rfl
  writer field hmem writer hwriter := by
    obtain ⟨conversion, hexact, heq⟩ := hfields field hmem
    rw [heq] at hwriter
    obtain rfl := Option.some.inj hwriter
    exact ⟨conversion, rfl, fun value _ taken => hexact value taken⟩

end SqlMapper
