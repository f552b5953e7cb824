import SqlMapper.Proofs.Handler.BuiltIn
import SqlMapper.Proofs.Property.WriteBack
import SqlMapper.Proofs.Session.Columns

/-!
# Columns that hold nothing

Where `null` is not written to properties, a column that holds `null` might as
well not be there. An instance is filled by two loops. The explicit mappings
look their columns up, and a column that is not there reads as one that holds
`null`; this needs that no other column has the name in another case. The
automatic mapping goes through the columns, and one that holds `null` changes
nothing: the property that it names can be written, so its type is known, the
handler of that type keeps `null`, and `null` is not written.

## Main definitions

* `Handler.KeepsNull` — the handler gives `null` for an absent column.
* `Row.present` — the columns that hold something.

## Main results

* `Handler.IsBuiltIn.keepsNull` — the built-in handlers keep `null`.
* `Row.column_present` — the columns that hold something decide what is looked
  up.
* `Configuration.assignNamed_null` — a column that holds `null` changes nothing.
* `Configuration.rowValue_present` — a row stands for what its columns that hold
  something stand for.
-/

namespace SqlMapper

/-! ## Handlers -/

namespace Handler

variable {handler : Handler}

/-- The handler gives `null` for an absent column. -/
def KeepsNull (handler : Handler) : Prop := handler.fromWire .null = .ok .null

/-- The built-in handlers keep `null`. -/
theorem IsBuiltIn.keepsNull (h : handler.IsBuiltIn) : handler.KeepsNull := by
  obtain ⟨kind, hkind, tag, rfl⟩ := h
  simp only [builtIns, List.mem_cons, List.not_mem_nil, or_false] at hkind
  rcases hkind with rfl | rfl | rfl | rfl | rfl | rfl | rfl <;> rfl

end Handler

/-! ## Rows -/

namespace Row

variable {row : Row}

/-- The columns that hold something. -/
def present (row : Row) : Row := row.filter fun column => !column.2.isNull

theorem mem_present_iff {column : String × Value} :
    column ∈ row.present ↔ column ∈ row ∧ column.2.isNull = false := by
  simp [present, List.mem_filter]

/-- Dropping columns that hold `null` does not change what is looked up. -/
theorem column_present (hdiffer : ColumnsDiffer row.keys) (name : String) :
    row.present.column name = row.column name := by
  have hpresent : ColumnsDiffer row.present.keys :=
    List.Pairwise.sublist (List.filter_sublist.map Prod.fst) hdiffer
  by_cases hfound : ∃ column ∈ row, Text.sameIgnoringAsciiCase column.1 name = true
  · obtain ⟨⟨column, value⟩, hmem, hsame⟩ := hfound
    rw [column_of_mem hdiffer hmem hsame]
    cases hnull : value.isNull with
    | false => exact column_of_mem hpresent (mem_present_iff.mpr ⟨hmem, hnull⟩) hsame
    | true =>
        -- the only column of that name is dropped
        rw [Value.isNull_iff.mp hnull]
        refine column_of_forall_not fun other hother hothersame => ?_
        obtain ⟨hothermem, hnotnull⟩ := mem_present_iff.mp hother
        have heq := eq_of_named hdiffer hmem hothermem hsame hothersame
        rw [← heq, hnull] at hnotnull
        cases hnotnull
  · have hnone : ∀ column ∈ row, ¬ Text.sameIgnoringAsciiCase column.1 name = true :=
      fun column hmem hsame => hfound ⟨column, hmem, hsame⟩
    rw [column_of_forall_not hnone]
    exact column_of_forall_not fun column hmem => hnone column (mem_present_iff.mp hmem).1

theorem present_eq_nil (h : ∀ column ∈ row, column.2.isNull = true) : row.present = [] := by
  unfold present
  rw [List.filter_eq_nil_iff]
  intro column hmem
  simp [h column hmem]

end Row

namespace Configuration

variable {config : Configuration} {descriptor : Descriptor} {resultMap : ResultMap}
  {filling : Filling} {type : TypeName} {row : Row}

/-! ## Assigning nothing -/

theorem assign_null (hsetting : config.settings.callSettersOnNulls = false) (property : String)
    (type : ValueType) : config.assign filling property type .null = .ok filling := by
  simp [assign, hsetting]

/-- A property that a column is written to can be written. -/
theorem canWritePath_of_automaticProperty? {column property : String}
    (h : config.automaticProperty? descriptor resultMap column = some property) :
    descriptor.canWritePath config.describe property = true := by
  unfold automaticProperty? at h
  split at h
  · cases h
  · obtain ⟨found, -, hfound⟩ := Option.bind_eq_some_iff.mp h
    split at hfound
    · cases hfound
      assumption
    · cases hfound

/-- A column that is mapped by name and holds `null` changes nothing. -/
theorem assignNamed_null {column : String × Value}
    (hsetting : config.settings.callSettersOnNulls = false)
    (hautomatic : ∀ type, (config.automaticHandler type).KeepsNull)
    (hnull : column.2.isNull = true) :
    config.assignNamed descriptor resultMap filling column = .ok filling := by
  unfold assignNamed
  cases hproperty : config.automaticProperty? descriptor resultMap column.1 with
  | none => rfl
  | some property =>
      obtain ⟨type, htype⟩ : ∃ type, descriptor.pathWriteType config.describe property = .ok type :=
        (Descriptor.canWrite_iff.mp (canWritePath_of_automaticProperty? hproperty)).1
      show descriptor.pathWriteType config.describe property >>= _ = _
      rw [htype]
      show (config.automaticHandler type).fromWire column.2 >>= _ = _
      rw [Value.isNull_iff.mp hnull, hautomatic type]
      exact assign_null hsetting property type

/-- If all registered handlers keep `null`, the automatic mapping uses no other
ones. -/
theorem keepsNull_automaticHandler (h : config.types.handlers.All Handler.KeepsNull)
    (type : ValueType) : (config.automaticHandler type).KeepsNull := by
  unfold automaticHandler
  cases hfind : config.types.handlers.find? config.types.family type none with
  | none => exact rfl
  | some handler => exact h.find? hfind

/-! ## Instances -/

/-- An instance is filled from the columns that hold something. -/
theorem instanceValue_present (hsetting : config.settings.callSettersOnNulls = false)
    (hautomatic : ∀ type, (config.automaticHandler type).KeepsNull)
    (hdiffer : ColumnsDiffer row.keys) :
    config.instanceValue resultMap type row.present = config.instanceValue resultMap type row := by
  have hmapped : config.assignMapped row.present = config.assignMapped row := by
    funext filling mapping
    rw [assignMapped, assignMapped, mappedColumn, mappedColumn, Row.column_present hdiffer]
  have hnamed (descriptor : Descriptor) (mapped : Filling) :
      row.present.foldlM (config.assignNamed descriptor resultMap) mapped =
        row.foldlM (config.assignNamed descriptor resultMap) mapped := by
    rw [Row.present, List.foldlM_filter]
    congr
    funext filling column
    cases hnull : column.2.isNull with
    | false => rfl
    | true => exact (assignNamed_null hsetting hautomatic hnull).symm
  unfold instanceValue
  simp only [hmapped, hnamed]

/-- A row without columns stands for `null`, if there are instances. -/
theorem instanceValue_nil {target : Value}
    (hsetting : config.settings.callSettersOnNulls = false)
    (hmapped : ∀ mapping ∈ resultMap.mappings, mapping.handler.KeepsNull)
    (hdescribe : config.describe type = .ok descriptor)
    (hinstantiate : descriptor.instantiate = .ok target) :
    config.instanceValue resultMap type [] = .ok .null := by
  let start : Filling := { target, found := false }
  have hexplicit : resultMap.mappings.foldlM (config.assignMapped []) start = .ok start := by
    refine foldlM_of_forall fun mapping hmem => ?_
    show mapping.handler.fromWire .null >>= _ = _
    rw [hmapped mapping hmem]
    exact assign_null hsetting mapping.property mapping.type
  unfold instanceValue
  rw [hdescribe]
  show descriptor.instantiate >>= _ = _
  rw [hinstantiate]
  show resultMap.mappings.foldlM (config.assignMapped []) start >>= _ = _
  rw [hexplicit]
  cases config.mapsAutomatically resultMap <;> rfl

/-! ## Rows of an object type -/

/-- Where `null` is not written to properties and the handlers keep `null`, as
the built-in ones do, a row of an object type stands for what its columns that
hold something stand for. A row in which no column holds anything stands for
`null`, if there are instances of the type. -/
theorem rowValue_present (hsetting : config.settings.callSettersOnNulls = false)
    (hmapped : ∀ mapping ∈ resultMap.mappings, mapping.handler.KeepsNull)
    (hautomatic : ∀ type, (config.automaticHandler type).KeepsNull)
    (htype : resultMap.type = .object type)
    (hhandler : config.types.handlers.has config.types.family (.object type) none = false)
    (hdiffer : ColumnsDiffer row.keys) :
    config.rowValue resultMap row = config.rowValue resultMap row.present ∧
      ((∀ column ∈ row, column.2.isNull = true) → ∀ descriptor target,
        config.describe type = .ok descriptor → descriptor.instantiate = .ok target →
          config.rowValue resultMap row = .ok .null) ∧
      ∀ handler : Handler, handler.IsBuiltIn → handler.KeepsNull := by
  have hrow (row : Row) :
      config.rowValue resultMap row = config.instanceValue resultMap type row := by
    unfold rowValue
    rw [htype]
    exact if_neg (by rw [hhandler]; decide)
  have hpresent : config.instanceValue resultMap type row.present =
      config.instanceValue resultMap type row :=
    instanceValue_present hsetting hautomatic hdiffer
  rw [hrow, hrow]
  refine ⟨hpresent.symm, ?_, fun _ => Handler.IsBuiltIn.keepsNull⟩
  intro hnulls descriptor target hdescribe hinstantiate
  rw [← hpresent, Row.present_eq_nil hnulls]
  exact instanceValue_nil hsetting hmapped hdescribe hinstantiate

/-! ### Visitors without a name -/

/-- A configuration that knows one object type. -/
def visitors : Configuration where
  types := {
    family := {
      shapes := [
        ("Visitor", {
          constructor := some []
          fields := [
            .ofSlot "Visitor" "name" .string .string,
            .ofSlot "Visitor" "age" .int .int] })] } }

/-- The name of a visitor comes from a column that is spelt in capitals. -/
def visitorMap : ResultMap where
  id := "visitor"
  type := .object "Visitor"
  mappings := [{ property := "name", column := "NAME", type := .string, handler := .string }]

/-- Only the age of a visitor is known. -/
def visitorRow : Row := [("name", .null), ("AGE", .int 7), ("note", .null)]

/-- Of a visitor only the age is written, and a visitor of whom nothing is known
is `null`. -/
theorem rowValue_present_visitors :
    visitors.settings.callSettersOnNulls = false ∧
      (∀ mapping ∈ visitorMap.mappings, mapping.handler.KeepsNull) ∧
      (∀ type, (visitors.automaticHandler type).KeepsNull) ∧
      visitorMap.type = .object "Visitor" ∧
      visitors.types.handlers.has visitors.types.family (.object "Visitor") none = false ∧
      ColumnsDiffer visitorRow.keys ∧
      visitors.rowValue visitorMap visitorRow = visitors.rowValue visitorMap [("AGE", .int 7)] ∧
      visitors.rowValue visitorMap [("name", .null), ("note", .null)] = .ok .null := by
  have hmapped : ∀ mapping ∈ visitorMap.mappings, mapping.handler.KeepsNull := by
    intro mapping hmem
    obtain rfl := List.mem_singleton.mp hmem
    rfl
  have hautomatic : ∀ type, (visitors.automaticHandler type).KeepsNull :=
    keepsNull_automaticHandler
      (HandlerRegistry.all_initial.imp fun _ => Handler.IsBuiltIn.keepsNull)
  have hhandler : visitors.types.handlers.has visitors.types.family (.object "Visitor") none =
      false := by decide +kernel
  have hdiffer : ColumnsDiffer visitorRow.keys := by decide +kernel
  refine ⟨rfl, hmapped, hautomatic, rfl, hhandler, hdiffer, ?_, ?_⟩
  · exact (rowValue_present rfl hmapped hautomatic rfl hhandler hdiffer).1
  · refine (rowValue_present rfl hmapped hautomatic rfl hhandler ?_).2.1 ?_ _ _ rfl rfl
    · decide +kernel
    · decide +kernel

end Configuration

end SqlMapper
