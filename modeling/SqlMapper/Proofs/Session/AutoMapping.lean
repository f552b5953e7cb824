import SqlMapper.Proofs.Property.Records
import SqlMapper.Proofs.Property.Writes
import SqlMapper.Session.Rows

/-!
# Columns that find their property by name

The columns that no explicit mapping names are mapped after the explicit
mappings. They are kept from the columns of these, not from their properties:
a column of another name that means the same property writes over it. This
module says which values the automatic mapping writes and what an explicitly
mapped property reads with it and without it.

## Main definitions

* `ResultMap.mappingAutomatically` — the result map with the automatic mapping
  on or off.
* `ResultMap.read` — what a property reads in a value of the result map.
* `Configuration.automaticWrites` — what the automatic mapping writes.

## Main results

* `Configuration.rowValue_reads` — what a property reads with the automatic
  mapping.
* `Configuration.rowValue_reads_same_iff` — when it reads the same without.
-/

namespace SqlMapper

/-! ## Result maps -/

/-- The result map with the automatic mapping on or off. -/
def ResultMap.mappingAutomatically (resultMap : ResultMap) (on : Bool) : ResultMap :=
  { resultMap with autoMapping := some on }

/-- What a property reads in a value of the result map: in a map by name, in
anything else along the path. -/
def ResultMap.read (resultMap : ResultMap) (describe : Describe) (value : Value)
    (property : String) : Except Fault Value :=
  match resultMap.type with
  | .any | .map => value.readProperty describe property
  | _ => value.readPath describe property

/-- The keys of a property in the values of the result map: maps take a
property as one key, instances as a path. -/
def ResultMap.keysOf (resultMap : ResultMap) (property : String) : List Key :=
  match resultMap.type with
  | .any | .map => [.name property]
  | _ => Path.keys property

theorem ResultMap.read_eq_readKeys (resultMap : ResultMap) (describe : Describe) (value : Value)
    (property : String) : resultMap.read describe value property =
      value.readKeys describe (resultMap.keysOf property) := by
  unfold ResultMap.read ResultMap.keysOf
  split
  · exact (Value.readKeys_singleton value (.name property)).symm
  · exact (Value.readKeys_singleton value (.name property)).symm
  · exact Value.readPath_eq_readKeys value property

namespace Configuration

variable (config : Configuration)

/-! ## The automatic writes -/

/-- The value is written to a property of the type. -/
def isAssigned (type : ValueType) (value : Value) : Bool :=
  !value.isNull || (config.settings.callSettersOnNulls && !type.isPrimitive)

/-- The write of a column that names a property. -/
def automaticWrite? (descriptor : Descriptor) (resultMap : ResultMap)
    (column : String × Value) : Option Write := do
  let property ← config.automaticProperty? descriptor resultMap column.1
  let type ← (descriptor.pathWriteType config.describe property).toOption
  let value ← ((config.automaticHandler type).fromWire column.2).toOption
  if config.isAssigned type value then return { keys := Path.keys property, value } else none

/-- What the automatic mapping writes, column by column. -/
def automaticWrites (resultMap : ResultMap) (row : Row) : List Write :=
  match resultMap.type with
  | .any | .map =>
      (row.filter fun column => !resultMap.isMappedColumn column.1).map fun column =>
        { keys := [.name column.1], value := column.2 }
  | .object type =>
      if config.types.handlers.has config.types.family (.object type) none then []
      else
        match config.describe type with
        | .ok descriptor => row.filterMap (config.automaticWrite? descriptor resultMap)
        | .error _ => []
  | _ => []

variable {config}

/-! ## Instances -/

section Instances

variable {descriptor : Descriptor} {resultMap : ResultMap} {filling filled : Filling}

/-- An assignment is a write, or leaves the instance as it is. -/
theorem assign_eq (property : String) (type : ValueType) (value : Value) :
    config.assign filling property type value =
      if config.isAssigned type value then do
        return {
          target := ← filling.target.storePath config.describe property value
          found := filling.found || !value.isNull }
      else .ok filling := by
  unfold assign
  rw [Edit.applyTo_path]
  show (if config.isAssigned type value then _ else _) = _
  split
  · rcases filling.target.storePath config.describe property value with fault | changed <;> rfl
  · rfl

/-- A column without an explicit mapping is written, or the instance stays as
it is. -/
theorem assignNamed_cases {column : String × Value}
    (h : config.assignNamed descriptor resultMap filling column = .ok filled) :
    match config.automaticWrite? descriptor resultMap column with
    | none => filled = filling
    | some write => Writes config.describe write.value filling.target write.keys filled.target ∧
        (filling.found = true → filled.found = true) := by
  unfold assignNamed at h
  unfold automaticWrite?
  rcases hproperty : config.automaticProperty? descriptor resultMap column.1 with _ | property <;>
    rw [hproperty] at h
  · cases h
    rfl
  · obtain ⟨type, htype, h⟩ := exists_of_bind_ok h
    obtain ⟨value, hvalue, h⟩ := exists_of_bind_ok h
    rw [assign_eq] at h
    simp only [Option.bind_eq_bind, Option.bind_some, htype, Except.toOption, hvalue]
    split at h
    · obtain ⟨target, htarget, h⟩ := exists_of_bind_ok h
      cases h
      rw [if_pos (by assumption)]
      exact ⟨Value.writes_of_storePath htarget, fun hfound => by simp [hfound]⟩
    · cases h
      rw [if_neg (by assumption)]

theorem writesAll_of_assignNamed {columns : Row}
    (h : columns.foldlM (config.assignNamed descriptor resultMap) filling = .ok filled) :
    WritesAll config.describe filling.target
        (columns.filterMap (config.automaticWrite? descriptor resultMap)) filled.target ∧
      (filling.found = true → filled.found = true) := by
  induction columns generalizing filling with
  | nil =>
      cases h
      exact ⟨rfl, id⟩
  | cons column columns ih =>
      rw [List.foldlM_cons] at h
      obtain ⟨mid, hfirst, hrest⟩ := exists_of_bind_ok h
      have hcases := assignNamed_cases hfirst
      obtain ⟨hwrites, hfound⟩ := ih hrest
      rw [List.filterMap_cons]
      rcases hwrite : config.automaticWrite? descriptor resultMap column with _ | write <;>
        rw [hwrite] at hcases
      · obtain rfl := hcases
        exact ⟨hwrites, hfound⟩
      · exact ⟨⟨mid.target, hcases.1, hwrites⟩, fun h => hfound (hcases.2 h)⟩

variable (config) in
/-- The instance that the explicit mappings fill. -/
def fillExplicitly (descriptor : Descriptor) (resultMap : ResultMap) (row : Row) :
    Except Fault Filling := do
  let target ← descriptor.instantiate
  resultMap.mappings.foldlM (config.assignMapped row) { target, found := false }

/-- The explicit mappings come first and are the same with the automatic
mapping and without. -/
theorem exists_of_instanceValue_ok {type : TypeName} {row : Row} {on : Bool} {value : Value}
    (h : config.instanceValue (resultMap.mappingAutomatically on) type row = .ok value) :
    ∃ descriptor mapped filled, config.describe type = .ok descriptor ∧
      config.fillExplicitly descriptor resultMap row = .ok mapped ∧
      (if on then row.foldlM (config.assignNamed descriptor resultMap) mapped else .ok mapped) =
        .ok filled ∧
      value = if filled.found then filled.target else .null := by
  obtain ⟨descriptor, hdescribe, h⟩ := exists_of_bind_ok h
  obtain ⟨target, htarget, h⟩ := exists_of_bind_ok h
  obtain ⟨mapped, hmapped, h⟩ := exists_of_bind_ok h
  have hexplicit : config.fillExplicitly descriptor resultMap row = .ok mapped := by
    unfold fillExplicitly
    rw [htarget]
    exact hmapped
  refine ⟨descriptor, mapped, ?_⟩
  cases on with
  | true =>
      obtain ⟨filled, hfilled, h⟩ := exists_of_bind_ok h
      cases h
      exact ⟨filled, hdescribe, hexplicit, hfilled, rfl⟩
  | false =>
      cases h
      exact ⟨mapped, hdescribe, hexplicit, rfl, rfl⟩

/-- With the automatic mapping, an instance that is not `null` without it
becomes what the automatic writes make of it. -/
theorem writesAll_of_instanceValue {type : TypeName} {row : Row} {on off : Value}
    (hon : config.instanceValue (resultMap.mappingAutomatically true) type row = .ok on)
    (hoff : config.instanceValue (resultMap.mappingAutomatically false) type row = .ok off)
    (hnull : off.isNull = false) :
    ∃ descriptor, config.describe type = .ok descriptor ∧
      WritesAll config.describe off
        (row.filterMap (config.automaticWrite? descriptor resultMap)) on := by
  obtain ⟨descriptor, mapped, filled, hdescribe, hmapped, hfilled, rfl⟩ :=
    exists_of_instanceValue_ok hon
  obtain ⟨descriptor', mapped', filled', hdescribe', hmapped', hfilled', rfl⟩ :=
    exists_of_instanceValue_ok hoff
  rw [hdescribe] at hdescribe'
  cases hdescribe'
  rw [hmapped] at hmapped'
  cases hmapped'
  cases hfilled'
  have hfound : mapped.found = true := by
    cases hfound : mapped.found with
    | true => rfl
    | false =>
        rw [hfound] at hnull
        cases hnull
  obtain ⟨hwrites, hkeeps⟩ := writesAll_of_assignNamed hfilled
  rw [if_pos hfound, if_pos (hkeeps hfound)]
  exact ⟨descriptor, hdescribe, hwrites⟩

end Instances

/-! ## Maps -/

/-- After the columns were inserted, a key reads the last column of that name,
or what it read before. -/
theorem readKeys_foldl_insert {describe : Describe} {columns : Row} {entries : Entries Value}
    (property : String) :
    (Value.map (columns.foldl (fun entries column => Entries.insert column.1 column.2 entries)
      entries)).readKeys describe [.name property] =
    (lastReading? describe [.name property]
      (columns.map fun column => { keys := [.name column.1], value := column.2 })).getD
      ((Value.map entries).readKeys describe [.name property]) := by
  induction columns generalizing entries with
  | nil => rfl
  | cons column columns ih =>
      rw [List.foldl_cons, ih, List.map_cons, lastReading?, Option.getD_or]
      congr 1
      rw [Value.readKeys_singleton, Value.readKeys_singleton]
      show Except.ok ((Entries.find? property (Entries.insert column.1 column.2 entries)).getD
        .null) = _
      rw [Entries.find?_insert]
      by_cases hname : column.1 = property
      · have hreaches : Write.Reaches ⟨[.name column.1], column.2⟩ [.name property] :=
          List.cons_prefix_cons.mpr ⟨congrArg Key.name hname, List.nil_prefix⟩
        rw [if_pos hname, if_pos hreaches]
        rfl
      · have hreaches : ¬ Write.Reaches ⟨[.name column.1], column.2⟩ [.name property] := by
          intro hprefix
          exact hname (Key.name.inj (List.cons_prefix_cons.mp hprefix).1)
        rw [if_neg hname, if_neg hreaches]
        rfl

/-- With the automatic mapping, a property of a map reads the last column of
that name without an explicit mapping, or what it reads without. -/
theorem readKeys_mapValue {resultMap : ResultMap} {row : Row} {on off : Value}
    (hon : config.mapValue (resultMap.mappingAutomatically true) row = .ok on)
    (hoff : config.mapValue (resultMap.mappingAutomatically false) row = .ok off)
    (property : String) :
    on.readKeys config.describe [.name property] =
      (lastReading? config.describe [.name property]
        ((row.filter fun column => !resultMap.isMappedColumn column.1).map fun column =>
          { keys := [.name column.1], value := column.2 })).getD
        (off.readKeys config.describe [.name property]) := by
  obtain ⟨mapped, hmapped, hoff⟩ := exists_of_bind_ok hoff
  obtain ⟨mapped', hmapped', hon⟩ := exists_of_bind_ok hon
  have hsame : mapped' = mapped := by
    have heq : Except.ok mapped' = Except.ok mapped := hmapped'.symm.trans hmapped
    exact Except.ok.inj heq
  subst hsame
  cases hon
  cases hoff
  exact readKeys_foldl_insert property

/-! ## Rows -/

/-- The setting decides for result maps that leave it open, and for nothing
else. -/
theorem rowValue_setting (resultMap : ResultMap) (row : Row) (on : Bool) :
    rowValue { config with settings := { config.settings with autoMapping := on } } resultMap row =
      config.rowValue (resultMap.mappingAutomatically (resultMap.autoMapping.getD on)) row :=
  rfl

/-- With the automatic mapping, a property reads what the last automatic write
that reaches it makes it read, and without such a write what it reads without
the automatic mapping. -/
theorem rowValue_reads {resultMap : ResultMap} {row : Row} {on off : Value} {property : String}
    (hon : config.rowValue (resultMap.mappingAutomatically true) row = .ok on)
    (hoff : config.rowValue (resultMap.mappingAutomatically false) row = .ok off)
    (hnull : off.isNull = false)
    (hobject : ∀ type, resultMap.type = .object type → ∃ kept,
      FaithfulAccessors config.describe kept ∧
      Separate config.describe kept off (config.automaticWrites resultMap row)
        (resultMap.keysOf property)) :
    Agree (resultMap.read config.describe on property)
      ((lastReading? config.describe (resultMap.keysOf property)
        (config.automaticWrites resultMap row)).getD
        (resultMap.read config.describe off property)) := by
  rw [ResultMap.read_eq_readKeys, ResultMap.read_eq_readKeys]
  have hscalar (hon : config.scalarValue resultMap row = .ok on)
      (hoff : config.scalarValue resultMap row = .ok off) (keys : List Key) :
      Agree (on.readKeys config.describe keys) (off.readKeys config.describe keys) := by
    rw [hon] at hoff
    cases hoff
    exact .refl _
  have htype (auto : Bool) : (resultMap.mappingAutomatically auto).type = resultMap.type := rfl
  unfold rowValue at hon hoff
  unfold automaticWrites at hobject ⊢
  rw [htype] at hon hoff
  cases hresult : resultMap.type with
  | any | map =>
      have hkeys : resultMap.keysOf property = [.name property] := by
        rw [ResultMap.keysOf, hresult]
      rw [hresult] at hon hoff
      rw [hkeys]
      exact .inl (readKeys_mapValue hon hoff property)
  | object type =>
      rw [hresult] at hon hoff hobject
      obtain ⟨kept, hfaithful, hseparate⟩ := hobject type rfl
      dsimp only at hon hoff hseparate ⊢
      split at hon
      · rw [if_pos (by assumption)] at hoff ⊢
        exact hscalar hon hoff _
      · rw [if_neg (by assumption)] at hoff hseparate ⊢
        obtain ⟨descriptor, hdescribe, hwrites⟩ := writesAll_of_instanceValue hon hoff hnull
        rw [hdescribe] at hseparate ⊢
        exact hwrites.readKeys_last hfaithful hseparate
  | _ =>
      rw [hresult] at hon hoff
      exact hscalar hon hoff _

/-- The automatic mapping does not change what a property reads if and only if
the last automatic write that reaches the property, if there is one, makes it
read the same. -/
theorem rowValue_reads_same_iff {resultMap : ResultMap} {row : Row} {on off : Value}
    {property : String}
    (hon : config.rowValue (resultMap.mappingAutomatically true) row = .ok on)
    (hoff : config.rowValue (resultMap.mappingAutomatically false) row = .ok off)
    (hnull : off.isNull = false)
    (hobject : ∀ type, resultMap.type = .object type → ∃ kept,
      FaithfulAccessors config.describe kept ∧
      Separate config.describe kept off (config.automaticWrites resultMap row)
        (resultMap.keysOf property)) :
    Agree (resultMap.read config.describe on property)
        (resultMap.read config.describe off property) ↔
      ∀ reading ∈ lastReading? config.describe (resultMap.keysOf property)
          (config.automaticWrites resultMap row),
        Agree reading (resultMap.read config.describe off property) := by
  have hreads := rowValue_reads hon hoff hnull hobject
  generalize lastReading? config.describe (resultMap.keysOf property)
    (config.automaticWrites resultMap row) = last at hreads ⊢
  rcases last with _ | reading
  · simpa using hreads
  · constructor
    · rintro hsame _ ⟨⟩
      exact hreads.symm.trans hsame
    · intro hlast
      exact hreads.trans (hlast reading rfl)

/-! ## A column of the same name -/

/-- Two properties that are slots. -/
def authorShape : Shape where
  constructor := some []
  fields := ["name", "bio"].map fun name => {
    name
    type := .string
    reader := .slot "Author" name
    writer := some (.slot "Author" name .string) }

/-- A configuration that knows one object type. -/
def authors : Configuration where
  types := { family := { shapes := [("Author", authorShape)] } }

/-- The name of an author comes from a column of another name. -/
def authorMap (type : ValueType) : ResultMap where
  id := "author"
  type
  mappings := [{ property := "name", column := "author_name", type := .string, handler := .string }]

/-- A row that also has a column with the name of the property. -/
def authorRow : Row :=
  [("author_name", .string "A"), ("name", .string "B"), ("bio", .string "C")]

private theorem authors_faithful : FaithfulAccessors authors.describe fun _ => True := by
  refine Family.faithful_of_shapes (fun _ => trivial) fun entry hentry => ?_
  obtain rfl := List.mem_singleton.mp hentry
  refine Shape.isRecord_of_slots rfl rfl fun field hfield => ⟨_, Conversion.exact_string, ?_⟩
  obtain ⟨name, -, rfl⟩ := List.mem_map.mp hfield
  rfl

private theorem exists_present {outcome : Except Fault Value}
    (h : (outcome.toOption.any fun value => !value.isNull) = true) :
    ∃ value, outcome = .ok value ∧ value.isNull = false := by
  obtain ⟨value, houtcome, hpresent⟩ := exists_ok_of_any h
  exact ⟨value, houtcome, (Bool.not_eq_true' _).mp hpresent⟩

/-- The name is read from the column of the same name exactly if that column
holds the same. -/
theorem authors_reads_same_iff :
    ∃ on off,
      authors.rowValue ((authorMap (.object "Author")).mappingAutomatically true) authorRow =
        .ok on ∧
      authors.rowValue ((authorMap (.object "Author")).mappingAutomatically false) authorRow =
        .ok off ∧
      off.isNull = false ∧
      (Agree ((authorMap (.object "Author")).read authors.describe on "name")
          ((authorMap (.object "Author")).read authors.describe off "name") ↔
        ∀ reading ∈ lastReading? authors.describe [.name "name"]
            (authors.automaticWrites (authorMap (.object "Author")) authorRow),
          Agree reading ((authorMap (.object "Author")).read authors.describe off "name")) := by
  obtain ⟨on, hon, -⟩ : ∃ on, authors.rowValue
      ((authorMap (.object "Author")).mappingAutomatically true) authorRow = .ok on ∧ _ :=
    exists_present (by decide +kernel)
  obtain ⟨off, hoff, hnull⟩ : ∃ off, authors.rowValue
      ((authorMap (.object "Author")).mappingAutomatically false) authorRow = .ok off ∧ _ :=
    exists_present (by decide +kernel)
  have hkeys : (authorMap (.object "Author")).keysOf "name" = [.name "name"] := by
    decide +kernel
  have hnames : ∀ write ∈ authors.automaticWrites (authorMap (.object "Author")) authorRow,
      ∃ name, write.keys = [.name name] := by
    intro write hmem
    have hkey := List.mem_map_of_mem (f := Write.keys) hmem
    rw [show List.map Write.keys _ = [[.name "name"], [.name "bio"]] by decide +kernel] at hkey
    simp only [List.mem_cons, List.not_mem_nil, or_false] at hkey
    rcases hkey with hname | hbio
    · exact ⟨_, hname⟩
    · exact ⟨_, hbio⟩
  refine ⟨on, off, hon, hoff, hnull, ?_⟩
  rw [← hkeys]
  refine rowValue_reads_same_iff hon hoff hnull fun _ _ => ⟨_, authors_faithful, ?_⟩
  rw [hkeys]
  exact .of_names hnames fun _ _ _ => trivial

private theorem eq_ok_string {reading : Except Fault Value} {s : String}
    (h : (match reading with | .ok (.string t) => some t | _ => none) = some s) :
    reading = .ok (.string s) := by
  rcases reading with fault | value
  · cases h
  · cases value <;> cases h
    rfl

/-- The columns of the explicit mappings are kept from the automatic mapping,
their properties are not: a column with the name of such a property is written
over it. -/
theorem authors_writes_over_explicit :
    (FaithfulAccessors authors.describe fun _ => True) ∧
      ∀ type ∈ [ValueType.object "Author", .map, .any], ∃ on off,
        authors.rowValue ((authorMap type).mappingAutomatically true) authorRow = .ok on ∧
        authors.rowValue ((authorMap type).mappingAutomatically false) authorRow = .ok off ∧
        on.isNull = false ∧ off.isNull = false ∧
        ∃ mapping ∈ (authorMap type).mappings,
          on.readPath authors.describe mapping.property = .ok (.string "B") ∧
          off.readPath authors.describe mapping.property = .ok (.string "A") := by
  refine ⟨authors_faithful, ?_⟩
  intro type htype
  have hpresent (auto : Bool) : ∃ value,
      authors.rowValue ((authorMap type).mappingAutomatically auto) authorRow = .ok value ∧
        value.isNull = false := by
    refine exists_present ?_
    revert auto
    revert type
    decide +kernel
  have hname (auto : Bool) : (authors.rowValue ((authorMap type).mappingAutomatically auto)
      authorRow >>= fun value => value.readPath authors.describe "name") =
        .ok (.string (if auto then "B" else "A")) := by
    refine eq_ok_string ?_
    clear hpresent
    revert auto
    revert type
    decide +kernel
  obtain ⟨on, hon, honnull⟩ := hpresent true
  obtain ⟨off, hoff, hoffnull⟩ := hpresent false
  have honname := hname true
  have hoffname := hname false
  rw [hon] at honname
  rw [hoff] at hoffname
  exact ⟨on, off, hon, hoff, honnull, hoffnull, _, List.mem_singleton.mpr rfl, honname, hoffname⟩

end Configuration

end SqlMapper
