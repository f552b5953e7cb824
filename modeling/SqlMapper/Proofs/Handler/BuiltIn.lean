import SqlMapper.Proofs.Run
import SqlMapper.Template.Compile

/-!
# Built-in handlers send scalars

A driver binds scalars only, but a supplied handler may send anything. The
built-in handlers send nothing but scalars, whatever they are given, and they
are the only ones that a registry gives which knows no other: by value type or
supertype, by wire type, under a name, or as the last resort.

## Main definitions

* `Handler.IsBuiltIn` — a built-in handler, or a new one of its kind.
* `HandlerRegistry.All` — every registered handler has a property.

## Main results

* `Handler.IsBuiltIn.isScalar_of_toWire` — built-in handlers send scalars.
* `HandlerRegistry.all_initial`, `HandlerRegistry.All.register`,
  `HandlerRegistry.All.registerWire`, `HandlerRegistry.All.registerNamed` — which
  registries know no other handlers.
* `TypeSystem.handler_of_mappingOf` — the handler of a mapping is a registered
  one or the last resort.
-/

namespace SqlMapper

/-! ## What built-in handlers send -/

namespace Handler

variable {handler kind : Handler} {value sent : Value} {wire : Option WireType}

/-- The handler is one that every registry starts with, or does the same under
an identity of its own. -/
def IsBuiltIn (handler : Handler) : Prop :=
  ∃ kind ∈ builtIns, ∃ tag, handler = kind.withTag tag

theorem isBuiltIn_of_mem (h : handler ∈ builtIns) : handler.IsBuiltIn :=
  ⟨handler, h, handler.tag, rfl⟩

theorem isBuiltIn_unknown : unknown.IsBuiltIn := isBuiltIn_of_mem (by simp [builtIns])

theorem isScalar_of_narrow {name : String} {n : Int64} (h : narrow name n = .ok sent) :
    sent.isScalar = true := by
  unfold narrow at h
  split at h
  · rw [← Except.ok.inj h]
    rfl
  · cases h

theorem isScalar_of_unknown (h : unknown.toWire value wire = .ok sent) : sent.isScalar = true := by
  dsimp only [unknown] at h
  split at h
  · next hscalar => rwa [← Except.ok.inj h]
  · cases h

theorem isScalar_of_mem (hkind : kind ∈ builtIns) (h : kind.toWire value wire = .ok sent) :
    sent.isScalar = true := by
  simp only [builtIns, List.mem_cons, List.not_mem_nil, or_false] at hkind
  rcases hkind with rfl | rfl | rfl | rfl | rfl | rfl | rfl
  case inr.inl =>
    cases value with
    | null | int => cases h; rfl
    | long n => exact isScalar_of_narrow h
    | _ => cases h
  case inr.inr.inr.inr.inr.inr => exact isScalar_of_unknown h
  all_goals cases value <;> cases h <;> rfl

/-- Whatever value a built-in handler is given, it sends a scalar or refuses. -/
theorem IsBuiltIn.isScalar_of_toWire (hbuiltIn : handler.IsBuiltIn)
    (h : handler.toWire value wire = .ok sent) : sent.isScalar = true := by
  obtain ⟨kind, hkind, tag, rfl⟩ := hbuiltIn
  exact isScalar_of_mem hkind h

end Handler

/-! ## Registries -/

namespace HandlerTable

variable {P : Handler → Prop} {table : HandlerTable} {wire : Option WireType} {handler : Handler}

theorem all_set (htable : ∀ entry ∈ table, P entry.2) (hhandler : P handler) :
    ∀ entry ∈ table.set wire handler, P entry.2 := by
  induction table with
  | nil => simpa [set] using hhandler
  | cons first table ih =>
      obtain ⟨w, h⟩ := first
      obtain ⟨hfirst, htable⟩ := List.forall_mem_cons.mp htable
      rw [set]
      split
      · exact List.forall_mem_cons.mpr ⟨hhandler, htable⟩
      · exact List.forall_mem_cons.mpr ⟨hfirst, ih htable⟩

theorem exists_of_get? (h : table.get? wire = some handler) :
    ∃ entry ∈ table, entry.2 = handler := by
  obtain ⟨entry, hfind, rfl⟩ := Option.map_eq_some_iff.mp h
  exact ⟨entry, List.mem_of_find?_eq_some hfind, rfl⟩

theorem exists_of_sole? (h : table.sole? = some handler) : ∃ entry ∈ table, entry.2 = handler := by
  cases table with
  | nil => cases h
  | cons first others =>
      rw [sole?] at h
      split at h
      · exact ⟨first, List.mem_cons_self, Option.some.inj h⟩
      · cases h

/-- The handler that a table has for a wire type is one of its handlers. -/
theorem exists_of_resolve? (h : table.resolve? wire = some handler) :
    ∃ entry ∈ table, entry.2 = handler := by
  rw [resolve?, Option.or_eq_some_iff] at h
  rcases h with h | ⟨-, h⟩
  · exact exists_of_get? h
  · rcases Option.or_eq_some_iff.mp h with h | ⟨-, h⟩
    · exact exists_of_get? h
    · exact exists_of_sole? h

end HandlerTable

namespace HandlerRegistry

/-- Every registered handler has the property. -/
structure All (P : Handler → Prop) (registry : HandlerRegistry) : Prop where
  byType : ∀ types ∈ registry.byType, ∀ entry ∈ types.2, P entry.2
  byWire : ∀ entry ∈ registry.byWire, P entry.2
  byName : ∀ name handler, registry.byName.find? name = some handler → P handler

variable {P : Handler → Prop} {registry : HandlerRegistry} {type : ValueType} {handler : Handler}

theorem All.imp {Q : Handler → Prop} (h : registry.All P) (hPQ : ∀ handler, P handler → Q handler) :
    registry.All Q where
  byType types htypes entry hentry := hPQ _ (h.byType types htypes entry hentry)
  byWire entry hentry := hPQ _ (h.byWire entry hentry)
  byName name handler hfound := hPQ _ (h.byName name handler hfound)

/-! ### Registering -/

theorem All.table (h : registry.All P) (type : ValueType) :
    ∀ entry ∈ registry.table type, P entry.2 := by
  unfold HandlerRegistry.table
  cases hfind : registry.byType.find? fun entry => entry.1 = type with
  | none => simp
  | some types => exact h.byType types (List.mem_of_find?_eq_some hfind)

theorem all_setTable {tables : List (ValueType × HandlerTable)} {table : HandlerTable}
    (htables : ∀ types ∈ tables, ∀ entry ∈ types.2, P entry.2) (htable : ∀ entry ∈ table, P entry.2) :
    ∀ types ∈ setTable type table tables, ∀ entry ∈ types.2, P entry.2 := by
  induction tables with
  | nil => simpa [setTable] using htable
  | cons first tables ih =>
      obtain ⟨t, old⟩ := first
      obtain ⟨hfirst, htables⟩ := List.forall_mem_cons.mp htables
      rw [setTable]
      split
      · exact List.forall_mem_cons.mpr ⟨htable, htables⟩
      · exact List.forall_mem_cons.mpr ⟨hfirst, ih htables⟩

theorem All.register (h : registry.All P) (hhandler : P handler) (type : ValueType)
    (wire : Option WireType) : (registry.register type wire handler).All P where
  byType := all_setTable h.byType (HandlerTable.all_set (h.table type) hhandler)
  byWire := h.byWire
  byName := h.byName

theorem All.registerWire (h : registry.All P) (hhandler : P handler) (wire : WireType) :
    (registry.registerWire wire handler).All P where
  byType := h.byType
  byWire := List.forall_mem_cons.mpr ⟨hhandler, fun entry hmem =>
    h.byWire entry (List.mem_filter.mp hmem).1⟩
  byName := h.byName

theorem All.registerNamed (h : registry.All P) (hhandler : P handler) (name : String) :
    (registry.registerNamed name handler).All P where
  byType := h.byType
  byWire := h.byWire
  byName name' found hfound := by
    rw [HandlerRegistry.registerNamed, Entries.find?_put] at hfound
    split at hfound
    · exact Option.some.inj hfound ▸ hhandler
    · exact h.byName name' found hfound

theorem All.registerScalar (h : registry.All P) (hhandler : P handler) (type : ValueType)
    (wires : List WireType) : (registry.registerScalar type handler wires).All P := by
  refine All.registerNamed ?_ hhandler _
  refine List.foldlRecOn wires _ (h.register hhandler type none) fun typed htyped wire _ => ?_
  exact (htyped.register hhandler type (some wire)).registerWire hhandler wire

/-- What holds of the built-in handlers holds of all that a registry starts
with. -/
theorem all_initial_of (h : ∀ handler ∈ Handler.builtIns, P handler) : initial.All P := by
  have hempty : ({} : HandlerRegistry).All P := ⟨by simp, by simp, by simp⟩
  have hscalars : ∀ entry ∈ scalars, P entry.2.1 := by
    intro entry hmem
    simp only [scalars, List.mem_cons, List.not_mem_nil, or_false] at hmem
    rcases hmem with rfl | rfl | rfl | rfl | rfl | rfl <;> exact h _ (by simp [Handler.builtIns])
  have hunknown := h Handler.unknown (by simp [Handler.builtIns])
  refine All.registerNamed (All.registerWire (All.register ?_ hunknown _ _) hunknown _) hunknown _
  refine List.foldlRecOn scalars _ hempty fun registry h entry hmem => ?_
  exact h.registerScalar (hscalars entry hmem) _ _

/-- A registry starts with built-in handlers. -/
theorem all_initial : initial.All Handler.IsBuiltIn :=
  all_initial_of fun _ => Handler.isBuiltIn_of_mem

/-! ### Looking handlers up -/

theorem All.find? (h : registry.All P) {family : Family} {wire : Option WireType}
    (hfind : registry.find? family type wire = some handler) : P handler := by
  obtain ⟨candidate, -, hresolve⟩ := List.exists_of_findSome?_eq_some hfind
  obtain ⟨entry, hmem, rfl⟩ := HandlerTable.exists_of_resolve? hresolve
  exact h.table candidate entry hmem

theorem All.findWire? (h : registry.All P) {wire : WireType}
    (hfind : registry.findWire? wire = some handler) : P handler := by
  obtain ⟨entry, hfound, rfl⟩ := Option.map_eq_some_iff.mp hfind
  exact h.byWire entry (List.mem_of_find?_eq_some hfound)

/-- The handler that a registry chooses is a registered one or the last
resort. -/
theorem All.choose (h : registry.All P) (hunknown : P Handler.unknown) (family : Family)
    (type : ValueType) (wire : Option WireType) : P (registry.choose family type wire) := by
  unfold HandlerRegistry.choose
  cases hchosen : (registry.find? family type wire).or (wire.bind registry.findWire?) with
  | none => exact hunknown
  | some handler =>
      rcases Option.or_eq_some_iff.mp hchosen with hfind | ⟨-, hwire⟩
      · exact h.find? hfind
      · obtain ⟨wire, -, hfind⟩ := Option.bind_eq_some_iff.mp hwire
        exact h.findWire? hfind

end HandlerRegistry

/-! ## The handlers of mappings -/

variable {P : Handler → Prop}

/-- A draft without a handler of its own gets a registered one or the last
resort. -/
theorem ParameterDraft.handler_of_finish {draft : ParameterDraft} {registry : HandlerRegistry}
    {family : Family} {mapping : ParameterMapping} (hall : registry.All P)
    (hunknown : P Handler.unknown) (hdraft : draft.handler = none)
    (h : draft.finish registry family = .ok mapping) : P mapping.handler := by
  obtain ⟨handler, hchoose, hmapping⟩ := exists_of_bind_ok h
  obtain rfl := Except.ok.inj hmapping
  show P handler
  unfold chooseHandler at hchoose
  rw [hdraft] at hchoose
  cases hname : draft.handlerName with
  | some name =>
      simp only [hname] at hchoose
      cases hnamed : registry.findNamed? name with
      | none =>
          rw [hnamed] at hchoose
          cases hchoose
      | some named =>
          rw [hnamed] at hchoose
          exact Except.ok.inj hchoose ▸ hall.byName name named hnamed
  | none =>
      simp only [hname] at hchoose
      split at hchoose
      · cases hchoose
      · exact Except.ok.inj hchoose ▸ hall.choose hunknown family _ _

namespace TypeSystem

variable {types : TypeSystem} {draft draft' : ParameterDraft} {content : String}

/-- No option of a reference gives a handler outright. -/
theorem handler_of_applyOption {option : String × String}
    (h : types.applyOption content draft option = .ok draft') : draft'.handler = draft.handler := by
  obtain ⟨key, value⟩ := option
  unfold applyOption at h
  dsimp only at h
  split at h
  · obtain ⟨_, -, hdraft⟩ := exists_of_bind_ok h
    exact Except.ok.inj hdraft ▸ rfl
  · obtain ⟨_, -, hdraft⟩ := exists_of_bind_ok h
    exact Except.ok.inj hdraft ▸ rfl
  · obtain ⟨_, -, hdraft⟩ := exists_of_bind_ok h
    exact Except.ok.inj hdraft ▸ rfl
  · split at h
    · exact Except.ok.inj h ▸ rfl
    · cases h
  all_goals first | exact Except.ok.inj h ▸ rfl | cases h

theorem handler_of_startDraft {property : String} {shorthand : Option String} {type : ValueType}
    (h : types.startDraft property shorthand type = .ok draft) : draft.handler = none := by
  unfold startDraft at h
  cases shorthand with
  | none => exact Except.ok.inj h ▸ rfl
  | some wire =>
      obtain ⟨_, -, hdraft⟩ := exists_of_bind_ok h
      exact Except.ok.inj hdraft ▸ rfl

/-- The handler of a mapping is a registered one or the last resort. -/
theorem handler_of_mappingOf {type : ValueType} {mapping : ParameterMapping}
    (hall : types.handlers.All P) (hunknown : P Handler.unknown)
    (h : types.mappingOf content type = .ok mapping) : P mapping.handler := by
  obtain ⟨reference, -, h⟩ := exists_of_bind_ok h
  split at h
  · cases h
  · obtain ⟨start, hstart, h⟩ := exists_of_bind_ok h
    obtain ⟨draft, hdraft, hfinish⟩ := exists_of_bind_ok h
    have hnone : draft.handler = none :=
      foldlM_keeps (P := fun d => d.handler = none)
        (fun h hnone => (handler_of_applyOption h).trans hnone) hdraft (handler_of_startDraft hstart)
    exact ParameterDraft.handler_of_finish hall hunknown hnone hfinish

end TypeSystem

end SqlMapper
