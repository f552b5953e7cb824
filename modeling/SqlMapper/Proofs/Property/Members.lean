import Mathlib.Data.List.Induction
import SqlMapper.Proofs.Association
import SqlMapper.Proofs.Run
import SqlMapper.Property.Descriptor

/-!
# What the members of a shape provide

Accessor methods are grouped by the property that they address, and one of each
group is chosen. Fields then fill what the methods leave open. Both collections
list a name where it first stands, so that the names of a descriptor are those of
the members without the repetitions.

How one of a group is chosen does not matter here, as long as one is.

## Main definitions

* `Method.property?`, `properties`, `candidates` — the properties that methods
  address, and the methods that address one.
* `Serves` — what the choice among methods leads to.
* `Shape.readFields`, `Shape.writeFields` — the accessors of the fields.

## Main results

* `serves_of_resolveGroups` — grouping and choosing serves every property.
* `toBool_resolve_eq_true_iff` — when it succeeds.
* `find?_fillFields`, `keys_fillFields` — what the fields add.
* `Descriptor.exists_of_resolve` — the parts of a descriptor.
-/

namespace SqlMapper

/-! ## Lists without repetitions -/

/-- A member is added to the distinct ones unless it is among them. -/
theorem eraseDups_concat {α : Type} [DecidableEq α] (as : List α) (a : α) :
    (as ++ [a]).eraseDups = if a ∈ as then as.eraseDups else as.eraseDups ++ [a] := by
  rw [List.eraseDups_append]
  split <;> simp [List.removeAll, List.eraseDups_cons, *]

theorem nodup_eraseDups {α : Type} [DecidableEq α] (as : List α) : as.eraseDups.Nodup := by
  induction as using List.reverseRecOn with
  | nil => exact List.nodup_nil
  | append_singleton as a ih =>
      rw [eraseDups_concat]
      split
      · exact ih
      · next hnew =>
          refine List.nodup_append.mpr ⟨ih, List.pairwise_singleton _ _, ?_⟩
          rintro b hb _ (_ | ⟨_, ⟨⟩⟩) rfl
          exact hnew (List.mem_eraseDups.mp hb)

namespace Entries

variable {α : Type} {key other : String} {value : α} {entries : Entries α}

/-- What is filled in counts where nothing was listed. -/
theorem find?_fill : find? other (entries.fill key value) =
    (find? other entries).or (if key = other then some value else none) := by
  unfold fill
  split
  · rename_i hhas
    by_cases hkey : key = other
    · obtain ⟨held, hheld⟩ := Option.isSome_iff_exists.mp hhas
      rw [← hkey, hheld]
      rfl
    · rw [if_neg hkey, Option.or_none]
  · rw [find?_append]
    rfl

theorem keys_fill : keys (entries.fill key value) =
    if key ∈ keys entries then keys entries else keys entries ++ [key] := by
  unfold fill has
  by_cases h : key ∈ keys entries
  · rw [if_pos h, if_pos (find?_isSome_iff.mpr h)]
  · rw [if_neg h, if_neg (mt find?_isSome_iff.mp h), keys, List.map_append]
    rfl

end Entries

/-! ## Methods and their properties -/

section Methods

variable {α : Type} {methods : List (Method α)} {method : Method α} {property : String}

/-- The property that the method addresses. -/
def Method.property? (method : Method α) : Option String :=
  (propertyOfAccessor method.name).toOption

/-- The properties that the methods address, with repetitions. -/
def properties (methods : List (Method α)) : List String := methods.filterMap Method.property?

/-- The methods that address the property, in their order. -/
def candidates (methods : List (Method α)) (property : String) : List (Method α) :=
  methods.filter fun method => method.property? = some property

theorem Method.property?_eq_some_iff :
    method.property? = some property ↔ propertyOfAccessor method.name = .ok property := by
  unfold property?
  rcases propertyOfAccessor method.name with fault | addressed <;> simp [Except.toOption]

theorem mem_candidates : method ∈ candidates methods property ↔
    method ∈ methods ∧ method.property? = some property := by
  simp [candidates]

theorem mem_properties_iff : property ∈ properties methods ↔ candidates methods property ≠ [] := by
  rw [ne_eq, List.eq_nil_iff_forall_not_mem]
  simp [properties, mem_candidates]

/-! ## Groups -/

/-- The groups hold for every property that may be exposed its candidates, in
the order in which the properties are first addressed. -/
structure Grouped (methods : List (Method α)) (groups : Entries (List (Method α))) : Prop where
  addressed : ∀ method ∈ methods, method.property?.isSome = true
  keys : groups.keys = ((properties methods).filter isExposedName).eraseDups
  members : ∀ property, isExposedName property = true →
    (groups.find? property).getD [] = candidates methods property

theorem addCandidate_of_property (groups : Entries (List (Method α)))
    (h : method.property? = some property) : addCandidate groups method =
      .ok (if isExposedName property then
        groups.put property ((groups.find? property).getD [] ++ [method]) else groups) := by
  unfold addCandidate
  rw [Method.property?_eq_some_iff.mp h]
  show (if _ then pure _ else pure _) = _
  split <;> rfl

/-- It is up to the name of the method alone whether it can be added. -/
theorem toBool_addCandidate (groups : Entries (List (Method α))) (method : Method α) :
    (addCandidate groups method).toBool = method.property?.isSome := by
  rcases h : propertyOfAccessor method.name with fault | property
  · unfold addCandidate Method.property?
    rw [h]
    rfl
  · have hproperty := Method.property?_eq_some_iff.mpr h
    rw [addCandidate_of_property groups hproperty, hproperty]
    rfl

/-- One method more goes to the end of its group. -/
theorem Grouped.concat {groups groups' : Entries (List (Method α))} (hgrouped : Grouped methods groups)
    (h : addCandidate groups method = .ok groups') : Grouped (methods ++ [method]) groups' := by
  have hsome : method.property?.isSome = true := by
    rw [← toBool_addCandidate groups, h]
    rfl
  obtain ⟨property, hproperty⟩ := Option.isSome_iff_exists.mp hsome
  rw [addCandidate_of_property groups hproperty] at h
  obtain rfl := Except.ok.inj h
  have hproperties : properties (methods ++ [method]) = properties methods ++ [property] := by
    simp [properties, hproperty]
  have hcandidates (other : String) : candidates (methods ++ [method]) other =
      candidates methods other ++ if property = other then [method] else [] := by
    simp [candidates, hproperty, List.filter_singleton]
  constructor
  · intro other hmem
    rcases List.mem_append.mp hmem with hmem | hmem
    · exact hgrouped.addressed other hmem
    · rwa [List.mem_singleton.mp hmem]
  · rw [hproperties, List.filter_append]
    by_cases hexposed : isExposedName property = true
    · have hnew : [property].filter isExposedName = [property] := by simp [hexposed]
      rw [if_pos hexposed, Entries.keys_put, hgrouped.keys, hnew, eraseDups_concat]
      simp only [List.mem_eraseDups]
    · have hnone : [property].filter isExposedName = [] := by simp [hexposed]
      rw [if_neg hexposed, hgrouped.keys, hnone, List.append_nil]
  · intro other hother
    rw [hcandidates, ← hgrouped.members other hother]
    by_cases heq : property = other
    · subst heq
      rw [if_pos hother, if_pos rfl, Entries.find?_put, if_pos rfl]
      rfl
    · rw [if_neg heq, List.append_nil]
      split
      · rw [Entries.find?_put, if_neg heq]
      · rfl

theorem grouped_of_groupByProperty {groups : Entries (List (Method α))}
    (h : groupByProperty methods = .ok groups) : Grouped methods groups := by
  induction methods using List.reverseRecOn generalizing groups with
  | nil =>
      obtain rfl := Except.ok.inj h
      exact ⟨fun _ hmem => absurd hmem List.not_mem_nil, rfl, fun _ _ => rfl⟩
  | append_singleton methods method ih =>
      unfold groupByProperty at h
      rw [List.foldlM_append] at h
      obtain ⟨before, hbefore, hlast⟩ := exists_of_bind_ok h
      rw [List.foldlM_cons] at hlast
      obtain ⟨after, hafter, hend⟩ := exists_of_bind_ok hlast
      obtain rfl := Except.ok.inj hend
      exact (ih hbefore).concat hafter

theorem toBool_groupByProperty (methods : List (Method α)) :
    (groupByProperty methods).toBool = methods.all fun method => method.property?.isSome :=
  toBool_foldlM toBool_addCandidate methods []

namespace Grouped

variable {groups : Entries (List (Method α))}

theorem nodup (h : Grouped methods groups) : groups.keys.Nodup := by
  rw [h.keys]
  exact nodup_eraseDups _

/-- A group is that of a property that may be exposed, and it is not empty. -/
theorem of_mem (h : Grouped methods groups) {group : String × List (Method α)}
    (hmem : group ∈ groups) :
    isExposedName group.1 = true ∧ group.2 = candidates methods group.1 ∧ group.2 ≠ [] := by
  have hkey : group.1 ∈ groups.keys := List.mem_map.mpr ⟨group, hmem, rfl⟩
  rw [h.keys, List.mem_eraseDups, List.mem_filter] at hkey
  have hheld := h.members group.1 hkey.2
  rw [Entries.find?_of_mem h.nodup hmem] at hheld
  have hmembers : group.2 = candidates methods group.1 := hheld
  exact ⟨hkey.2, hmembers, hmembers ▸ mem_properties_iff.mp hkey.1⟩

/-- Every property that may be exposed and that some method addresses has its
group. -/
theorem find?_of_candidates (h : Grouped methods groups) (hexposed : isExposedName property = true)
    (hne : candidates methods property ≠ []) :
    groups.find? property = some (candidates methods property) := by
  rw [← h.members property hexposed] at hne ⊢
  rcases hfind : groups.find? property with _ | group
  · rw [hfind] at hne
    exact absurd rfl hne
  · rfl

end Grouped

/-! ## The choice in each group -/

variable {choice : String → List (Method α) → Except Fault (Option (Method α))}

/-- Every property that may be exposed and that some method addresses is served
by the method chosen among its candidates, in the order in which the properties
are first addressed. -/
structure Serves (choice : String → List (Method α) → Except Fault (Option (Method α)))
    (methods : List (Method α)) (accessors : Entries (Accessor α)) : Prop where
  addressed : ∀ method ∈ methods, method.property?.isSome = true
  keys : accessors.keys = ((properties methods).filter isExposedName).eraseDups
  chosen : ∀ property, isExposedName property = true → candidates methods property ≠ [] →
    ∃ method, choice property (candidates methods property) = .ok (some method) ∧
      accessors.find? property = some method.accessor

/-- The choice settles on a method unless there is none. -/
def Settles (choice : String → List (Method α) → Except Fault (Option (Method α))) : Prop :=
  ∀ property methods, choice property methods = .ok none → methods = []

/-- Each group gives one entry, in the order of the groups. -/
theorem forall₂_of_resolveGroups {groups : Entries (List (Method α))}
    {resolved : Entries (Accessor α)} (hsettles : Settles choice)
    (hgroups : ∀ group ∈ groups, group.2 ≠ []) (h : resolveGroups choice groups = .ok resolved) :
    List.Forall₂ (fun group entry => entry.1 = group.1 ∧
      ∃ method, choice group.1 group.2 = .ok (some method) ∧ entry.2 = method.accessor)
      groups resolved := by
  induction groups generalizing resolved with
  | nil =>
      obtain rfl := Except.ok.inj h
      exact .nil
  | cons group groups ih =>
      obtain ⟨chosen, hchosen, hrest⟩ := exists_of_bind_ok h
      obtain ⟨others, hothers, hall⟩ := exists_of_bind_ok hrest
      have htail := ih (fun group hmem => hgroups group (List.mem_cons_of_mem _ hmem)) hothers
      cases chosen with
      | none => exact absurd (hsettles _ _ hchosen) (hgroups group List.mem_cons_self)
      | some method =>
          obtain rfl := Except.ok.inj hall
          exact .cons ⟨rfl, method, hchosen, rfl⟩ htail

/-- Grouping and choosing serves every property. -/
theorem serves_of_resolveGroups {accessors : Entries (Accessor α)} (hsettles : Settles choice)
    (h : groupByProperty methods >>= resolveGroups choice = .ok accessors) :
    Serves choice methods accessors := by
  obtain ⟨groups, hgroups, hresolve⟩ := exists_of_bind_ok h
  have hgrouped := grouped_of_groupByProperty hgroups
  have hentries := forall₂_of_resolveGroups hsettles (fun group hmem => (hgrouped.of_mem hmem).2.2)
    hresolve
  clear hresolve h hgroups
  constructor
  · exact hgrouped.addressed
  · rw [← hgrouped.keys]
    clear hgrouped
    induction hentries with
    | nil => rfl
    | cons hentry _ ih => exact congrArg₂ List.cons hentry.1 ih
  · intro property hexposed hne
    have hfind := hgrouped.find?_of_candidates hexposed hne
    clear hgrouped
    induction hentries with
    | nil => cases hfind
    | @cons group entry _ _ hentry _ ih =>
        obtain ⟨name, members⟩ := group
        obtain ⟨key, accessor⟩ := entry
        obtain ⟨rfl, method, hchosen, rfl⟩ := hentry
        rw [Entries.find?_cons] at hfind ⊢
        split at hfind
        · next heq =>
            obtain rfl := Option.some.inj hfind
            exact ⟨method, heq ▸ hchosen, if_pos heq⟩
        · next hne =>
            rw [if_neg hne]
            exact ih hfind

theorem toBool_resolveGroups (groups : Entries (List (Method α))) :
    (resolveGroups choice groups).toBool =
      groups.all fun group => (choice group.1 group.2).toBool := by
  induction groups with
  | nil => rfl
  | cons group groups ih =>
      obtain ⟨property, members⟩ := group
      rw [List.all_cons, ← ih, resolveGroups]
      rcases choice property members with fault | chosen
      · rfl
      · rcases resolveGroups choice groups with fault | others
        · rfl
        · cases chosen <;> rfl

/-- Grouping and choosing succeeds if every method addresses a property, and the
choice does among the candidates of every property that may be exposed. -/
theorem toBool_resolve_eq_true_iff :
    (groupByProperty methods >>= resolveGroups choice).toBool = true ↔
      (∀ method ∈ methods, method.property?.isSome = true) ∧
        ∀ property, isExposedName property = true → candidates methods property ≠ [] →
          (choice property (candidates methods property)).toBool = true := by
  have hgroups := toBool_groupByProperty methods
  rcases hrun : groupByProperty methods with fault | groups <;> rw [hrun] at hgroups
  · have hnot : ¬ ∀ method ∈ methods, method.property?.isSome = true := by
      rw [← List.all_eq_true, ← hgroups]
      exact Bool.false_ne_true
    exact iff_of_false Bool.false_ne_true fun h => hnot h.1
  · have hgrouped := grouped_of_groupByProperty hrun
    show (resolveGroups choice groups).toBool = true ↔ _
    rw [toBool_resolveGroups, List.all_eq_true]
    constructor
    · intro h
      refine ⟨hgrouped.addressed, fun property hexposed hne => ?_⟩
      exact h _ (Entries.mem_of_find? (hgrouped.find?_of_candidates hexposed hne))
    · rintro ⟨-, h⟩ group hmem
      obtain ⟨hexposed, hmembers, hne⟩ := hgrouped.of_mem hmem
      rw [hmembers] at hne ⊢
      exact h _ hexposed hne

/-- Nothing else is served. -/
theorem Serves.find?_eq_none_iff {accessors : Entries (Accessor α)}
    (h : Serves choice methods accessors) : accessors.find? property = none ↔
      (isExposedName property = true → candidates methods property = []) := by
  rw [← Option.not_isSome_iff_eq_none, Entries.find?_isSome_iff, h.keys, List.mem_eraseDups,
    List.mem_filter, mem_properties_iff]
  tauto

end Methods

/-! ## Fields -/

section Fields

/-- Reading a field. -/
def Field.readAccessor (field : Field) : Accessor Reader :=
  { strategy := .field, member := field.name, type := field.type, call := field.reader }

/-- Writing a field that can be written. -/
def Field.writeAccessor? (field : Field) : Option (Accessor Writer) :=
  field.writer.map fun writer =>
    { strategy := .field, member := field.name, type := field.type, call := writer }

/-- The fields by name, as they are read. -/
def Shape.readFields (shape : Shape) : Entries (Accessor Reader) :=
  shape.fields.map fun field => (field.name, field.readAccessor)

/-- The fields that can be written by name, as they are written. -/
def Shape.writeFields (shape : Shape) : Entries (Accessor Writer) :=
  shape.fields.filterMap fun field => field.writeAccessor?.map fun accessor => (field.name, accessor)

theorem mem_readFields_iff {shape : Shape} {name : String} {accessor : Accessor Reader} :
    (name, accessor) ∈ shape.readFields ↔
      ∃ field ∈ shape.fields, field.name = name ∧ accessor = field.readAccessor := by
  simp [Shape.readFields, eq_comm]

theorem mem_writeFields_iff {shape : Shape} {name : String} {accessor : Accessor Writer} :
    (name, accessor) ∈ shape.writeFields ↔
      ∃ field ∈ shape.fields, field.name = name ∧ field.writeAccessor? = some accessor := by
  simp only [Shape.writeFields, List.mem_filterMap, Option.map_eq_some_iff, Prod.mk.injEq]
  constructor
  · rintro ⟨field, hmem, _, haccessor, rfl, rfl⟩
    exact ⟨field, hmem, rfl, haccessor⟩
  · rintro ⟨field, hmem, rfl, haccessor⟩
    exact ⟨field, hmem, accessor, haccessor, rfl, rfl⟩

variable {α : Type}

/-- Fills in the fields that may be exposed. -/
def Entries.fillFields (entries fields : Entries α) : Entries α :=
  fields.foldl
    (fun entries field => if isExposedName field.1 then entries.fill field.1 field.2 else entries)
    entries

theorem fillGetters_eq (getters : Entries (Accessor Reader)) (shape : Shape) :
    fillGetters getters shape.fields = getters.fillFields shape.readFields := by
  unfold fillGetters Entries.fillFields Shape.readFields
  rw [List.foldl_map]
  rfl

theorem fillSetters_eq (setters : Entries (Accessor Writer)) (shape : Shape) :
    fillSetters setters shape.fields = setters.fillFields shape.writeFields := by
  unfold fillSetters Entries.fillFields Shape.writeFields
  rw [List.foldl_filterMap]
  congr 1
  funext setters field
  unfold Field.writeAccessor?
  rcases field.writer with _ | writer <;> rfl

namespace Entries

variable {entries fields : Entries α} {names : List String} {key name : String} {value : α}

theorem fillFields_cons : fillFields entries ((name, value) :: fields) =
    fillFields (if isExposedName name then entries.fill name value else entries) fields :=
  rfl

/-- A field is found where nothing else is, if it may be exposed. -/
theorem find?_fillFields : find? key (entries.fillFields fields) =
    (find? key entries).or (if isExposedName key then find? key fields else none) := by
  induction fields generalizing entries with
  | nil => simp [fillFields]
  | cons field fields ih =>
      obtain ⟨name, value⟩ := field
      rw [fillFields_cons, ih, find?_cons]
      by_cases heq : name = key
      · subst heq
        rw [if_pos rfl]
        split
        · rw [find?_fill, Option.or_assoc, if_pos rfl]
          rfl
        · rfl
      · rw [if_neg heq]
        split
        · rw [find?_fill, if_neg heq, Option.or_none]
        · rfl

/-- Names that are listed without repetition stay so. -/
theorem keys_fillFields (h : keys entries = names.eraseDups) :
    keys (entries.fillFields fields) =
      (names ++ (keys fields).filter isExposedName).eraseDups := by
  induction fields generalizing entries names with
  | nil => simpa [keys, fillFields] using h
  | cons field fields ih =>
      obtain ⟨name, value⟩ := field
      have hkeys : keys ((name, value) :: fields) = name :: keys fields := rfl
      rw [fillFields_cons, hkeys]
      by_cases hexposed : isExposedName name = true
      · rw [if_pos hexposed, List.filter_cons_of_pos hexposed, ← List.singleton_append,
          ← List.append_assoc]
        refine ih ?_
        rw [keys_fill, h, eraseDups_concat]
        simp only [List.mem_eraseDups]
      · rw [if_neg hexposed, List.filter_cons_of_neg hexposed]
        exact ih h

end Entries

end Fields

/-! ## Descriptors -/

namespace Descriptor

variable {family : Family} {type : TypeName} {shape : Shape} {d : Descriptor} {property : String}

theorem getter_eq_ok_iff {accessor : Accessor Reader} :
    d.getter property = .ok accessor ↔ d.getters.find? property = some accessor := by
  unfold getter
  rcases d.getters.find? property with _ | held <;> simp

theorem setter_eq_ok_iff {accessor : Accessor Writer} :
    d.setter property = .ok accessor ↔ d.setters.find? property = some accessor := by
  unfold setter
  rcases d.setters.find? property with _ | held <;> simp

/-- A descriptor consists of the methods that serve and of fields behind them. -/
theorem exists_of_resolve (h : family.resolve type shape = .ok d) :
    ∃ getters setters, methodGetters family type shape = .ok getters ∧
      methodSetters family type shape getters = .ok setters ∧
      d.getters = getters.fillFields shape.readFields ∧
      d.setters = setters.fillFields shape.writeFields ∧ d.type = type := by
  obtain ⟨getters, hgetters, h⟩ := exists_of_bind_ok h
  obtain ⟨setters, hsetters, h⟩ := exists_of_bind_ok h
  obtain rfl := Except.ok.inj h
  exact ⟨getters, setters, hgetters, hsetters, fillGetters_eq getters shape,
    fillSetters_eq setters shape, rfl⟩

end Descriptor

end SqlMapper
