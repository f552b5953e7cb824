import SqlMapper.Proofs.Handler.Typing
import SqlMapper.Proofs.Session.AutoMapping

/-!
# The types of what rows stand for

A row becomes a map, an instance or a scalar by the type of its result map.
A map is made of columns. An instance is written to, property by property,
and stays an instance of its type whatever is written. A scalar comes from
the handler that the registry has for the type, and the built-in handlers
give values of their own type only. So every row stands for `null` or for a
value of the type of its result map.

## Main results

* `Writes.hasType_object` — an instance that is written to stays one.
* `Configuration.rowValue_hasType`, `Configuration.results_hasType` — what one
  row stands for, and all rows of a statement.
-/

namespace SqlMapper

/-! ## Instances -/

/-- One key of an instance is written through a setter of its type. -/
theorem Value.hasType_object_of_storeKey {describe : Describe} {value root changed : Value}
    {key : Key} {type : TypeName} (h : root.storeKey describe key value = .ok changed)
    (hroot : root.HasType (.object type)) : changed.HasType (.object type) := by
  cases hroot with
  | object type slots =>
      cases key with
      | name property =>
          obtain ⟨setter, -, hinvoke⟩ := exists_of_bind_ok h
          obtain ⟨filled, -, hchanged⟩ := exists_of_bind_ok hinvoke
          obtain rfl : Value.object type filled = changed := Except.ok.inj hchanged
          exact .object type filled
      | index index => cases h

/-- An instance that is written to stays an instance of its type. -/
theorem Writes.hasType_object {describe : Describe} {value root changed : Value} {keys : List Key}
    {type : TypeName} (h : Writes describe value root keys changed)
    (hroot : root.HasType (.object type)) : changed.HasType (.object type) := by
  cases h with
  | store hstore | through _ _ _ hstore | create _ _ _ hstore =>
      exact Value.hasType_object_of_storeKey hstore hroot
  | drop => exact hroot

/-- The descriptor of a type is that of the type. -/
theorem Family.type_of_describe {family : Family} {type : TypeName} {descriptor : Descriptor}
    (h : family.describe type = .ok descriptor) : descriptor.type = type := by
  obtain ⟨getters, -, hsetters⟩ := exists_of_bind_ok h
  obtain ⟨setters, -, hdescriptor⟩ := exists_of_bind_ok hsetters
  obtain rfl := Except.ok.inj hdescriptor
  rfl

theorem Descriptor.hasType_of_instantiate {descriptor : Descriptor} {value : Value}
    (h : descriptor.instantiate = .ok value) : value.HasType (.object descriptor.type) := by
  unfold instantiate at h
  split at h <;> cases h
  exact .object _ _

namespace Configuration

variable {config : Configuration} {resultMap : ResultMap} {row : Row}

section Filling

variable {filling filled : Filling} {name : TypeName}

theorem assign_hasType {property : String} {type : ValueType} {value : Value}
    (h : config.assign filling property type value = .ok filled)
    (htarget : filling.target.HasType (.object name)) : filled.target.HasType (.object name) := by
  rw [assign_eq] at h
  split at h
  · obtain ⟨target, hstore, hfilled⟩ := exists_of_bind_ok h
    obtain rfl := Except.ok.inj hfilled
    exact (Value.writes_of_storePath hstore).hasType_object htarget
  · obtain rfl := Except.ok.inj h
    exact htarget

theorem assignMapped_hasType {mapping : ResultMapping}
    (h : config.assignMapped row filling mapping = .ok filled)
    (htarget : filling.target.HasType (.object name)) : filled.target.HasType (.object name) := by
  obtain ⟨value, -, hassign⟩ := exists_of_bind_ok h
  exact assign_hasType hassign htarget

theorem assignNamed_hasType {descriptor : Descriptor} {column : String × Value}
    (h : config.assignNamed descriptor resultMap filling column = .ok filled)
    (htarget : filling.target.HasType (.object name)) : filled.target.HasType (.object name) := by
  unfold assignNamed at h
  split at h
  · obtain rfl := Except.ok.inj h
    exact htarget
  · obtain ⟨type, -, hvalue⟩ := exists_of_bind_ok h
    obtain ⟨value, -, hassign⟩ := exists_of_bind_ok hvalue
    exact assign_hasType hassign htarget

end Filling

/-- An instance of a row is absent or of the type that it is made for. -/
theorem instanceValue_hasType {type : TypeName} {value : Value}
    (h : config.instanceValue resultMap type row = .ok value) :
    value.HasTypeOrNull (.object type) := by
  obtain ⟨descriptor, hdescribe, hstart⟩ := exists_of_bind_ok h
  obtain ⟨target, htarget, hmapped⟩ := exists_of_bind_ok hstart
  obtain ⟨mapped, hmapped, hfilled⟩ := exists_of_bind_ok hmapped
  have hnew : target.HasType (.object type) := by
    rw [← Family.type_of_describe hdescribe]
    exact Descriptor.hasType_of_instantiate htarget
  have hexplicit : mapped.target.HasType (.object type) :=
    foldlM_keeps (P := fun filling => filling.target.HasType (.object type))
      assignMapped_hasType hmapped hnew
  have hresult {filled : Filling} (hkept : filled.target.HasType (.object type)) :
      (if filled.found then filled.target else .null).HasTypeOrNull (.object type) := by
    split
    · exact .inr hkept
    · exact .inl rfl
  split at hfilled
  · obtain ⟨filled, hnamed, hvalue⟩ := exists_of_bind_ok hfilled
    obtain rfl := Except.ok.inj hvalue
    exact hresult (foldlM_keeps (P := fun filling => filling.target.HasType (.object type))
      assignNamed_hasType hnamed hexplicit)
  · obtain ⟨filled, hsame, hvalue⟩ := exists_of_bind_ok hfilled
    obtain rfl := Except.ok.inj hvalue
    obtain rfl := Except.ok.inj hsame
    exact hresult hexplicit

/-! ## Rows -/

theorem mapValue_hasType {value : Value} (h : config.mapValue resultMap row = .ok value) :
    value.HasType .map := by
  obtain ⟨mapped, -, hvalue⟩ := exists_of_bind_ok h
  obtain rfl := Except.ok.inj hvalue
  exact .map _

/-- With the built-in handlers, a scalar of a row is absent or of the type of
the result map. -/
theorem scalarValue_hasType {value : Value} (hhandlers : config.types.handlers = .initial)
    (hmappings : resultMap.mappings = []) (h : config.scalarValue resultMap row = .ok value) :
    value.HasTypeOrNull resultMap.type := by
  unfold scalarValue at h
  rw [hmappings, hhandlers] at h
  dsimp only at h
  split at h
  · next handler hfind => exact HandlerRegistry.gives_of_find?_initial hfind _ _ h
  · cases h

/-- With the built-in handlers, a row stands for `null` or for a value of the
type of a result map without explicit mappings. -/
theorem rowValue_hasType {value : Value} (hhandlers : config.types.handlers = .initial)
    (hmappings : resultMap.mappings = []) (h : config.rowValue resultMap row = .ok value) :
    value.HasTypeOrNull resultMap.type := by
  unfold rowValue at h
  split at h
  · next htype =>
      rw [htype]
      exact .inr (.any value)
  · next htype =>
      rw [htype]
      exact .inr (mapValue_hasType h)
  · next type htype =>
      have hhas : config.types.handlers.has config.types.family (.object type) none = false := by
        rw [hhandlers, HandlerRegistry.has, HandlerRegistry.find?_initial_object]
        rfl
      rw [hhas, if_neg Bool.false_ne_true] at h
      rw [htype]
      exact instanceValue_hasType h
  · exact scalarValue_hasType hhandlers hmappings h

/-- The same for all rows of a statement with such a result map. -/
theorem results_hasType {statement : Statement} {rows : List Row} {values : List Value}
    {others : List ResultMap} (hhandlers : config.types.handlers = .initial)
    (hresultMaps : statement.resultMaps = resultMap :: others)
    (hmappings : resultMap.mappings = []) (h : config.results statement rows = .ok values) :
    ∀ value ∈ values, value.HasTypeOrNull resultMap.type := by
  intro value hmem
  unfold results at h
  rw [hresultMaps] at h
  obtain ⟨row, -, hrow⟩ := exists_of_mapM_ok h hmem
  exact rowValue_hasType hhandlers hmappings hrow

end Configuration

end SqlMapper
