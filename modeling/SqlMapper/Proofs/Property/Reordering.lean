import SqlMapper.Proofs.Property.Resolution

/-!
# The order of accessor methods

Which methods serve a property depends on the methods as a set, up to methods of
one type. So two orders of the methods that both resolve give every property the
same types.

They need not agree about whether they resolve. Methods are compared one after
the other, and two that cannot be compared are a fault only if they meet. So the
order does not matter for a shape that no order resolves, and for one in which
any two methods of a property can be compared, and for no others. Setters may
also differ in any way if one of them has the type of the getter.

## Main definitions

* `Shape.Reorders` — the same shape with its methods in another order.
* `Shape.IsUnrivalled` — any two methods of a property can be compared.

## Main results

* `types_reordered` — two orders that both resolve agree about all types.
* `isUnrivalled_of_forall_resolve`, `Shape.IsUnrivalled.toBool_resolve` — when
  every order resolves.
* `Family.resolve_reordered` — what does not depend on the order.
-/

namespace SqlMapper

variable {family : Family} {type : TypeName} {shape other : Shape} {property : String}

/-- The shapes differ at most in the order of their accessor methods. -/
structure Shape.Reorders (other shape : Shape) : Prop where
  constructor : other.constructor = shape.constructor
  supertypes : other.supertypes = shape.supertypes
  fields : other.fields = shape.fields
  getters : other.getters.Perm shape.getters
  setters : other.setters.Perm shape.setters

theorem Shape.Reorders.refl (shape : Shape) : shape.Reorders shape :=
  ⟨rfl, rfl, rfl, .refl _, .refl _⟩

theorem Shape.Reorders.symm (h : other.Reorders shape) : shape.Reorders other :=
  ⟨h.constructor.symm, h.supertypes.symm, h.fields.symm, h.getters.symm, h.setters.symm⟩

theorem Shape.Reorders.readFields_eq (h : other.Reorders shape) :
    other.readFields = shape.readFields := by
  rw [readFields, h.fields, readFields]

theorem Shape.Reorders.writeFields_eq (h : other.Reorders shape) :
    other.writeFields = shape.writeFields := by
  rw [writeFields, h.fields, writeFields]

section Methods

variable {α : Type} {methods methods' order : List (Method α)}

theorem candidates_perm (h : methods.Perm methods') (property : String) :
    (candidates methods property).Perm (candidates methods' property) :=
  h.filter _

/-- Any order of the candidates for one property is that of some order of all
methods. -/
theorem exists_perm_candidates (h : order.Perm (candidates methods property)) :
    ∃ reordered, reordered.Perm methods ∧ candidates reordered property = order := by
  let addresses (method : Method α) : Bool := method.property? = some property
  refine ⟨order ++ methods.filter fun method => !addresses method, ?_, ?_⟩
  · exact (h.append_right _).trans (List.filter_append_perm addresses methods)
  · have horder : candidates order property = order :=
      List.filter_eq_self.mpr fun method hmem =>
        decide_eq_true (mem_candidates.mp (h.mem_iff.mp hmem)).2
    have hothers : candidates (methods.filter fun method => !addresses method) property = [] := by
      simp [candidates, addresses]
    rw [candidates, List.filter_append]
    show candidates order property ++ candidates _ property = order
    rw [horder, hothers, List.append_nil]

/-! ## The types that two orders give -/

/-- What leads two orders of the candidates has one type. -/
theorem Leads.type_eq {Outranks : Method α → Method α → Prop} {leader leader' : Method α}
    (hnarrower : ∀ {a b}, Outranks a b → family.isAssignable b.type a.type = true)
    (h : Leads Outranks methods leader) (h' : Leads Outranks methods' leader')
    (hperm : methods.Perm methods') (hacyclic : ∀ method ∈ methods, family.AcyclicAt method.type) :
    leader.type = leader'.type := by
  rcases h.unique h' hperm with rfl | ⟨hleads, hled⟩
  · rfl
  · exact Family.isAssignable_antisymm (hacyclic leader h.mem) (hnarrower hled) (hnarrower hleads)

/-- Two orders of the methods serve the same properties. They do so as the same
types, if those do that both orders serve. -/
theorem Serves.servedType?_eq
    {choice choice' : String → List (Method α) → Except Fault (Option (Method α))}
    {accessors accessors' : Entries (Accessor α)} (h : Serves choice methods accessors)
    (h' : Serves choice' methods' accessors') (hperm : methods'.Perm methods)
    (hsame : isExposedName property = true → candidates methods property ≠ [] →
      candidates methods' property ≠ [] →
        servedType? accessors' property = servedType? accessors property) :
    servedType? accessors' property = servedType? accessors property := by
  have hcandidates := candidates_perm hperm property
  by_cases hserved : isExposedName property = true → candidates methods property = []
  · have hserved' : isExposedName property = true → candidates methods' property = [] :=
      fun hexposed => (hserved hexposed ▸ hcandidates).eq_nil
    unfold servedType?
    rw [h.find?_eq_none_iff.mpr hserved, h'.find?_eq_none_iff.mpr hserved']
  · obtain ⟨hexposed, hne⟩ := Classical.not_imp.mp hserved
    exact hsame hexposed hne fun hnil => hne (hnil ▸ hcandidates.symm).eq_nil

end Methods

variable {getters getters' : Entries (Accessor Reader)} {setters setters' : Entries (Accessor Writer)}

theorem Shape.IsAcyclic.reorder (h : shape.IsAcyclic family) (hother : other.Reorders shape) :
    other.IsAcyclic family where
  getters method hmem := h.getters method (hother.getters.mem_iff.mp hmem)
  setters method hmem := h.setters method (hother.setters.mem_iff.mp hmem)

/-- Two orders read every property as the same type. -/
theorem servedType?_methodGetters (h : methodGetters family type shape = .ok getters)
    (h' : methodGetters family type other = .ok getters') (hother : other.Reorders shape)
    (hacyclic : shape.IsAcyclic family) (property : String) :
    servedType? getters' property = servedType? getters property := by
  apply (serves_methodGetters h).servedType?_eq (serves_methodGetters h') hother.getters
  intro hexposed hne hne'
  obtain ⟨chosen, hfind, hleads⟩ := exists_leading_getter h hacyclic hexposed hne
  obtain ⟨chosen', hfind', hleads'⟩ :=
    exists_leading_getter h' (hacyclic.reorder hother) hexposed hne'
  have hsame : chosen.type = chosen'.type :=
    hleads.type_eq OutranksGetter.narrower hleads' (candidates_perm hother.getters property).symm
      (acyclicAt_of_mem_candidates hacyclic.getters)
  rw [servedType?_of_find? hfind, servedType?_of_find? hfind']
  exact congrArg some hsame.symm

/-- Two orders write every property as the same type. -/
theorem servedType?_methodSetters (h : methodSetters family type shape getters = .ok setters)
    (h' : methodSetters family type other getters' = .ok setters') (hother : other.Reorders shape)
    (hacyclic : shape.IsAcyclic family)
    (hgetters : servedType? getters' property = servedType? getters property) :
    servedType? setters' property = servedType? setters property := by
  apply (serves_methodSetters h).servedType?_eq (serves_methodSetters h') hother.setters
  intro hexposed hne hne'
  have hcandidates := candidates_perm hother.setters property
  obtain ⟨chosen, hfind, hcases⟩ := exists_leading_setter h hexposed hne
  obtain ⟨chosen', hfind', hcases'⟩ := exists_leading_setter h' hexposed hne'
  rw [hgetters] at hcases'
  have hsame : chosen.type = chosen'.type := by
    rcases hcases with ⟨hmem, hexact⟩ | ⟨hnone, hleads⟩ <;>
      rcases hcases' with ⟨hmem', hexact'⟩ | ⟨hnone', hleads'⟩
    · exact Option.some.inj (hexact.symm.trans hexact')
    · exact absurd hexact (hnone' chosen (hcandidates.mem_iff.mpr hmem))
    · exact absurd hexact' (hnone chosen' (hcandidates.mem_iff.mp hmem'))
    · exact hleads.type_eq id hleads' hcandidates.symm
        (acyclicAt_of_mem_candidates hacyclic.setters)
  rw [servedType?_of_find? hfind, servedType?_of_find? hfind']
  exact congrArg some hsame.symm

/-- What the fields add does not depend on the order of the methods. -/
theorem servedType?_fillFields {α : Type} (accessors fields : Entries (Accessor α)) :
    servedType? (accessors.fillFields fields) property = (servedType? accessors property).or
      (if isExposedName property then servedType? fields property else none) := by
  unfold servedType?
  rw [Entries.find?_fillFields, Option.map_or]
  split <;> rfl

theorem Descriptor.getterType_eq (d : Descriptor) (property : String) :
    d.getterType property = (servedType? d.getters property).elim
      (.error (.noSuchProperty .getter property d.type)) .ok := by
  unfold getterType getter servedType?
  rcases d.getters.find? property with _ | accessor <;> rfl

theorem Descriptor.setterType_eq (d : Descriptor) (property : String) :
    d.setterType property = (servedType? d.setters property).elim
      (.error (.noSuchProperty .setter property d.type)) .ok := by
  unfold setterType setter servedType?
  rcases d.setters.find? property with _ | accessor <;> rfl

/-- Two orders that both resolve give every property the same types. -/
theorem types_reordered {d d' : Descriptor} (h : family.resolve type shape = .ok d)
    (h' : family.resolve type other = .ok d') (hother : other.Reorders shape)
    (hacyclic : shape.IsAcyclic family) (property : String) :
    d'.getterType property = d.getterType property ∧
      d'.setterType property = d.setterType property := by
  obtain ⟨getters, setters, hgetters, hsetters, heq, heq', rfl⟩ := Descriptor.exists_of_resolve h
  obtain ⟨getters', setters', hgetters', hsetters', hother_eq, hother_eq', htype⟩ :=
    Descriptor.exists_of_resolve h'
  have hread := servedType?_methodGetters hgetters hgetters' hother hacyclic property
  have hwritten := servedType?_methodSetters hsetters hsetters' hother hacyclic hread
  constructor
  · rw [d'.getterType_eq, d.getterType_eq, htype, heq, hother_eq, servedType?_fillFields,
      servedType?_fillFields, hread, hother.readFields_eq]
  · rw [d'.setterType_eq, d.setterType_eq, htype, heq', hother_eq', servedType?_fillFields,
      servedType?_fillFields, hwritten, hother.writeFields_eq]

/-! ## Orders that resolve -/

/-- The accessor methods are named after properties. -/
structure Shape.NamesProperties (shape : Shape) : Prop where
  getters : ∀ method ∈ shape.getters, method.property?.isSome = true
  setters : ∀ method ∈ shape.setters, method.property?.isSome = true

/-- Any two methods of a property can be compared, or they are setters of which
one has the type of the getter. -/
structure Shape.IsUnrivalled (shape : Shape) (family : Family) : Prop where
  getters : ∀ property, isExposedName property = true →
    (candidates shape.getters property).Pairwise (Comparable (OutranksGetter family))
  setters : ∀ property, isExposedName property = true →
    (candidates shape.setters property).Pairwise (Comparable (OutranksSetter family)) ∨
      ∃ getter, Leads (OutranksGetter family) (candidates shape.getters property) getter ∧
        ∃ setter ∈ candidates shape.setters property, setter.type = getter.type

theorem Shape.NamesProperties.reorder (h : shape.NamesProperties) (hother : other.Reorders shape) :
    other.NamesProperties where
  getters method hmem := h.getters method (hother.getters.mem_iff.mp hmem)
  setters method hmem := h.setters method (hother.setters.mem_iff.mp hmem)

theorem Shape.IsUnrivalled.reorder (h : shape.IsUnrivalled family) (hother : other.Reorders shape) :
    other.IsUnrivalled family where
  getters property hexposed :=
    ((candidates_perm hother.getters property).pairwise_iff Or.symm).mpr (h.getters property hexposed)
  setters property hexposed := by
    have hgetters := candidates_perm hother.getters property
    have hsetters := candidates_perm hother.setters property
    rcases h.setters property hexposed with hpairwise | ⟨getter, hleads, setter, hmem, htype⟩
    · exact .inl ((hsetters.pairwise_iff Or.symm).mpr hpairwise)
    · exact .inr ⟨getter, hleads.perm hgetters.symm, setter, hsetters.mem_iff.mpr hmem, htype⟩

theorem toBool_methodGetters_iff : (methodGetters family type shape).toBool = true ↔
    (∀ method ∈ shape.getters, method.property?.isSome = true) ∧
      ∀ property, isExposedName property = true → candidates shape.getters property ≠ [] →
        (chooseGetter family type property (candidates shape.getters property)).toBool = true :=
  toBool_resolve_eq_true_iff

theorem toBool_methodSetters_iff : (methodSetters family type shape getters).toBool = true ↔
    (∀ method ∈ shape.setters, method.property?.isSome = true) ∧
      ∀ property, isExposedName property = true → candidates shape.setters property ≠ [] →
        (chooseSetter family type property (servedType? getters property)
          (candidates shape.setters property)).toBool = true :=
  toBool_resolve_eq_true_iff

/-- A shape resolves if its getter methods do, and its setter methods beside
these. -/
theorem toBool_resolve_iff : (family.resolve type shape).toBool = true ↔
    ∃ getters, methodGetters family type shape = .ok getters ∧
      (methodSetters family type shape getters).toBool = true := by
  unfold Family.resolve
  rcases methodGetters family type shape with fault | getters
  · exact iff_of_false Bool.false_ne_true nofun
  · show (methodSetters family type shape getters >>= fun _ => _).toBool = true ↔ _
    rcases hsetters : methodSetters family type shape getters with fault | setters
    · refine iff_of_false Bool.false_ne_true ?_
      rintro ⟨_, ⟨⟩, hresolved⟩
      rw [hsetters] at hresolved
      cases hresolved
    · refine iff_of_true rfl ⟨getters, rfl, ?_⟩
      rw [hsetters]
      rfl

theorem namesProperties_of_resolve (h : (family.resolve type shape).toBool = true) :
    shape.NamesProperties := by
  obtain ⟨getters, hgetters, hsetters⟩ := toBool_resolve_iff.mp h
  exact ⟨(toBool_methodGetters_iff.mp (toBool_of_eq_ok hgetters)).1,
    (toBool_methodSetters_iff.mp hsetters).1⟩

/-- If any two methods of a property can be compared, the shape resolves. -/
theorem Shape.IsUnrivalled.toBool_resolve (h : shape.IsUnrivalled family)
    (hacyclic : shape.IsAcyclic family) (hnames : shape.NamesProperties) :
    (family.resolve type shape).toBool = true := by
  have hresolved : (methodGetters family type shape).toBool = true := by
    refine toBool_methodGetters_iff.mpr ⟨hnames.getters, fun property hexposed _ => ?_⟩
    exact decides_preferGetter.pairwise_iff_forall_choose.mp (h.getters property hexposed) _ (.refl _)
  obtain ⟨getters, hgetters⟩ := exists_ok_of_toBool hresolved
  refine toBool_resolve_iff.mpr ⟨getters, hgetters, toBool_methodSetters_iff.mpr
    ⟨hnames.setters, fun property hexposed _ => ?_⟩⟩
  rcases h.setters property hexposed with hpairwise | ⟨getter, hleads, setter, hmem, htype⟩
  · by_cases hexact : ∃ setter ∈ candidates shape.setters property,
        servedType? getters property = some setter.type
    · obtain ⟨setter, hmem, hsame⟩ := hexact
      exact toBool_chooseSetter_of_exact hmem hsame
    · rw [chooseSetter_of_forall_ne fun setter hmem hsame => hexact ⟨setter, hmem, hsame⟩]
      exact decides_preferSetter.pairwise_iff_forall_choose.mp hpairwise _ (.refl _)
  · -- the getter that serves has the type of the one that leads
    obtain ⟨chosen, hfind, hchosen⟩ := exists_leading_getter hgetters hacyclic hexposed
      (List.ne_nil_of_mem hleads.mem)
    have hsame : chosen.type = getter.type := hchosen.type_eq OutranksGetter.narrower hleads (.refl _)
      (acyclicAt_of_mem_candidates hacyclic.getters)
    refine toBool_chooseSetter_of_exact hmem ?_
    rw [servedType?_of_find? hfind, htype, ← hsame]
    rfl

/-- If every order of the getters resolves, any two of a property can be compared:
some order begins with the two. -/
theorem pairwise_getters_of_forall_resolve (hexposed : isExposedName property = true)
    (h : ∀ other : Shape, other.Reorders shape → (family.resolve type other).toBool = true) :
    (candidates shape.getters property).Pairwise (Comparable (OutranksGetter family)) := by
  have hdecides : Decides (preferGetter family type property) _ _ := decides_preferGetter
  refine hdecides.pairwise_iff_forall_choose.mpr fun order hperm => ?_
  by_cases hnil : order = []
  · rw [hnil]
    rfl
  · obtain ⟨reordered, hreordered, hcandidates⟩ := exists_perm_candidates hperm
    have hresolved := h { shape with getters := reordered } ⟨rfl, rfl, rfl, hreordered, .refl _⟩
    obtain ⟨getters, hgetters, -⟩ := toBool_resolve_iff.mp hresolved
    obtain ⟨-, hchosen⟩ := toBool_methodGetters_iff.mp (toBool_of_eq_ok hgetters)
    specialize hchosen property hexposed
    rw [hcandidates] at hchosen
    exact hchosen hnil

/-- If every order of the setters resolves, any two of a property can be compared,
unless one of them has the type of the getter. -/
theorem pairwise_setters_of_forall_resolve (hexposed : isExposedName property = true)
    (hgetters : methodGetters family type shape = .ok getters)
    (hnone : ∀ setter ∈ candidates shape.setters property,
      servedType? getters property ≠ some setter.type)
    (h : ∀ other : Shape, other.Reorders shape → (family.resolve type other).toBool = true) :
    (candidates shape.setters property).Pairwise (Comparable (OutranksSetter family)) := by
  have hdecides : Decides (preferSetter family type property) _ _ := decides_preferSetter
  refine hdecides.pairwise_iff_forall_choose.mpr fun order hperm => ?_
  by_cases hnil : order = []
  · rw [hnil]
    rfl
  · obtain ⟨reordered, hreordered, hcandidates⟩ := exists_perm_candidates hperm
    have hresolved := h { shape with setters := reordered } ⟨rfl, rfl, rfl, .refl _, hreordered⟩
    obtain ⟨getters', hgetters', hsetters⟩ := toBool_resolve_iff.mp hresolved
    obtain rfl : getters = getters' := Except.ok.inj (hgetters.symm.trans hgetters')
    obtain ⟨-, hchosen⟩ := toBool_methodSetters_iff.mp hsetters
    specialize hchosen property hexposed
    rw [hcandidates] at hchosen
    rw [← chooseSetter_of_forall_ne fun setter hmem => hnone setter (hperm.mem_iff.mp hmem)]
    exact hchosen hnil

/-- If every order resolves, any two methods of a property can be compared. -/
theorem isUnrivalled_of_forall_resolve (hacyclic : shape.IsAcyclic family)
    (h : ∀ other : Shape, other.Reorders shape → (family.resolve type other).toBool = true) :
    shape.IsUnrivalled family := by
  refine ⟨fun property hexposed => pairwise_getters_of_forall_resolve hexposed h, ?_⟩
  intro property hexposed
  obtain ⟨getters, hgetters, -⟩ := toBool_resolve_iff.mp (h shape (.refl shape))
  by_cases hexact : ∃ setter ∈ candidates shape.setters property,
      servedType? getters property = some setter.type
  · obtain ⟨setter, hmem, hsame⟩ := hexact
    obtain ⟨chosen, htype, hleads⟩ :=
      exists_leading_of_servedType? hgetters hacyclic hexposed hsame
    exact .inr ⟨chosen, hleads, setter, hmem, htype.symm⟩
  · refine .inl (pairwise_setters_of_forall_resolve hexposed hgetters ?_ h)
    exact fun setter hmem hsame => hexact ⟨setter, hmem, hsame⟩

/-- Two orders of the methods of a shape that both resolve give every property the
same types. All orders resolve alike exactly if none resolves or any two methods
of a property can be compared. -/
theorem Family.resolve_reordered (hacyclic : shape.IsAcyclic family) :
    (∀ other d d', other.Reorders shape → family.resolve type shape = .ok d →
      family.resolve type other = .ok d' →
        ∀ property, d'.getterType property = d.getterType property ∧
          d'.setterType property = d.setterType property) ∧
    ((∀ other, other.Reorders shape →
        (family.resolve type other).toBool = (family.resolve type shape).toBool) ↔
      ((∃ other, other.Reorders shape ∧ (family.resolve type other).toBool = true) →
        shape.IsUnrivalled family)) := by
  constructor
  · exact fun other d d' hother h h' property => types_reordered h h' hother hacyclic property
  · constructor
    · rintro hsame ⟨resolved, hresolved, hsome⟩
      have hall (other : Shape) (hother : other.Reorders shape) :
          (family.resolve type other).toBool = true := by
        rw [hsame other hother, ← hsame resolved hresolved]
        exact hsome
      exact isUnrivalled_of_forall_resolve hacyclic hall
    · intro hunrivalled other hother
      by_cases hsome : ∃ other, other.Reorders shape ∧ (family.resolve type other).toBool = true
      · obtain ⟨resolved, hresolved, hok⟩ := hsome
        have hrivals := hunrivalled ⟨resolved, hresolved, hok⟩
        have hnames : shape.NamesProperties :=
          (namesProperties_of_resolve hok).reorder hresolved.symm
        rw [hrivals.toBool_resolve hacyclic hnames,
          (hrivals.reorder hother).toBool_resolve (hacyclic.reorder hother) (hnames.reorder hother)]
      · have hnone (other : Shape) (hother : other.Reorders shape) :
            (family.resolve type other).toBool = false :=
          Bool.eq_false_iff.mpr fun hok => hsome ⟨other, hother, hok⟩
        rw [hnone other hother, hnone shape (.refl shape)]

/-- It is enough to compare the methods that are named after the same property. -/
theorem Shape.isUnrivalled_of_pairwise
    (hgetters : shape.getters.Pairwise fun getter other =>
      getter.property? = other.property? → Comparable (OutranksGetter family) getter other)
    (hsetters : shape.setters.Pairwise fun setter other =>
      setter.property? = other.property? → Comparable (OutranksSetter family) setter other) :
    shape.IsUnrivalled family := by
  have hamong {α : Type} {R : Method α → Method α → Prop} {methods : List (Method α)}
      (h : methods.Pairwise fun a b => a.property? = b.property? → R a b) (property : String) :
      (candidates methods property).Pairwise R := by
    refine (h.filter _).imp_of_mem fun ha hb hab => hab ?_
    rw [(mem_candidates.mp ha).2, (mem_candidates.mp hb).2]
  exact ⟨fun property _ => hamong hgetters property, fun property _ => .inl (hamong hsetters property)⟩

/-- Kennels resolve in every order of their methods, with the same types. -/
theorem resolve_reordered_kennels :
    ∃ d, animals.resolve "Kennel" kennels = .ok d ∧
      ∀ other : Shape, other.Reorders kennels → ∃ d', animals.resolve "Kennel" other = .ok d' ∧
        ∀ property, d'.getterType property = d.getterType property ∧
          d'.setterType property = d.setterType property := by
  obtain ⟨d, hd⟩ := exists_ok_of_toBool
    (show (animals.resolve "Kennel" kennels).toBool = true by decide +kernel)
  have hunrivalled : kennels.IsUnrivalled animals :=
    Shape.isUnrivalled_of_pairwise (by decide +kernel) (by decide +kernel)
  refine ⟨d, hd, fun other hother => ?_⟩
  have hresolves : (animals.resolve "Kennel" other).toBool = true := by
    rw [(Family.resolve_reordered isAcyclic_kennels).2.mpr (fun _ => hunrivalled) other hother]
    exact toBool_of_eq_ok hd
  obtain ⟨d', hd'⟩ := exists_ok_of_toBool hresolves
  exact ⟨d', hd', (Family.resolve_reordered isAcyclic_kennels).1 other d d' hother hd hd'⟩

/-- A getter for the size of authors. -/
def sizeGetter (name : String) (type : ValueType) : Method Reader :=
  { name, type, call := .slot "Author" "size" }

/-- Getters of which the narrowest comes before two of the same type. -/
def narrowFirst : Shape where
  getters := [sizeGetter "getSize" .int, sizeGetter "get_size" .any, sizeGetter "isSize" .any]

/-- The same getters with the narrowest at the end. -/
def narrowLast : Shape where
  getters := [sizeGetter "get_size" .any, sizeGetter "isSize" .any, sizeGetter "getSize" .int]

/-- Two getters of the same type are a fault if they meet before the narrower one,
and not behind it. -/
theorem narrowFirst_resolves_narrowLast_not :
    narrowFirst.IsAcyclic {} ∧ narrowLast.Reorders narrowFirst ∧
      (Family.resolve {} "Author" narrowFirst).toBool = true ∧
      (Family.resolve {} "Author" narrowLast).toBool = false := by
  refine ⟨⟨?_, fun _ hmem => absurd hmem List.not_mem_nil⟩, ⟨rfl, rfl, rfl, ?_, .refl _⟩, ?_, ?_⟩
  · exact fun method _ => Family.acyclicAt_of_rank (fun _ => 0) (by decide) method.type
  · exact (List.perm_append_comm : (narrowFirst.getters.tail ++ [sizeGetter "getSize" .int]).Perm _)
  · decide +kernel
  · decide +kernel

end SqlMapper
