import SqlMapper.Proofs.Property.Exposure

/-!
# The methods that are chosen

Of the getter methods of a property the one with the narrowest type is chosen. Of
its setter methods it is one with the type of that getter, and without one the
one with the narrowest type.

The type that setters are matched with is that of the getter *method*. A field
that the property is read from has no say.

## Main definitions

* `Descriptor.methodType?` — the type of the getter method that serves a property.

## Main results

* `exists_leading_getter`, `exists_leading_setter` — who serves a property.
* `Descriptor.chooses_least` — the same of a descriptor.
-/

namespace SqlMapper

variable {family : Family} {type : TypeName} {shape : Shape} {d : Descriptor} {property : String}

/-! ## Among the methods -/

theorem acyclicAt_of_mem_candidates {α : Type} {methods : List (Method α)}
    (h : ∀ method ∈ methods, family.AcyclicAt method.type) :
    ∀ method ∈ candidates methods property, family.AcyclicAt method.type :=
  fun method hmem => h method (mem_candidates.mp hmem).1

/-- The getter that serves the property outranks the other ones. -/
theorem exists_leading_getter {getters : Entries (Accessor Reader)}
    (h : methodGetters family type shape = .ok getters) (hacyclic : shape.IsAcyclic family)
    (hexposed : isExposedName property = true) (hne : candidates shape.getters property ≠ []) :
    ∃ chosen, getters.find? property = some chosen.accessor ∧
      Leads (OutranksGetter family) (candidates shape.getters property) chosen := by
  obtain ⟨chosen, hchosen, hfind⟩ := (serves_methodGetters h).chosen property hexposed hne
  exact ⟨chosen, hfind,
    decides_preferGetter.leads_of_choose (acyclicAt_of_mem_candidates hacyclic.getters) hchosen⟩

/-- The type of the getter that serves the property is that of one that outranks
the other ones. -/
theorem exists_leading_of_servedType? {getters : Entries (Accessor Reader)} {read : ValueType}
    (h : methodGetters family type shape = .ok getters) (hacyclic : shape.IsAcyclic family)
    (hexposed : isExposedName property = true) (hread : servedType? getters property = some read) :
    ∃ chosen, chosen.type = read ∧
      Leads (OutranksGetter family) (candidates shape.getters property) chosen := by
  have hne : candidates shape.getters property ≠ [] := by
    intro hnil
    unfold servedType? at hread
    rw [(serves_methodGetters h).find?_eq_none_iff.mpr fun _ => hnil] at hread
    cases hread
  obtain ⟨chosen, hfind, hleads⟩ := exists_leading_getter h hacyclic hexposed hne
  rw [servedType?_of_find? hfind] at hread
  exact ⟨chosen, Option.some.inj hread, hleads⟩

/-- The setter that serves the property has the type of the getter, or no setter
has and it outranks the other ones. -/
theorem exists_leading_setter {getters : Entries (Accessor Reader)}
    {setters : Entries (Accessor Writer)} (h : methodSetters family type shape getters = .ok setters)
    (hexposed : isExposedName property = true) (hne : candidates shape.setters property ≠ []) :
    ∃ chosen, setters.find? property = some chosen.accessor ∧
      (chosen ∈ candidates shape.setters property ∧
          servedType? getters property = some chosen.type ∨
        (∀ candidate ∈ candidates shape.setters property,
          servedType? getters property ≠ some candidate.type) ∧
        Leads (OutranksSetter family) (candidates shape.setters property) chosen) := by
  obtain ⟨chosen, hchosen, hfind⟩ := (serves_methodSetters h).chosen property hexposed hne
  exact ⟨chosen, hfind, chooseSetter_cases hchosen⟩

/-! ## In a descriptor -/

/-- The type of the getter method that serves the property. -/
def Descriptor.methodType? (d : Descriptor) (property : String) : Option ValueType :=
  match d.getters.find? property with
  | some accessor => if accessor.strategy = .method then some accessor.type else none
  | none => none

theorem strategy_of_readFields {accessor : Accessor Reader}
    (h : shape.readFields.find? property = some accessor) : accessor.strategy = .field := by
  obtain ⟨field, -, -, rfl⟩ := mem_readFields_iff.mp (Entries.mem_of_find? h)
  rfl

/-- Among the accessors of a descriptor the getter methods are told by their
strategy. -/
theorem servedType?_eq_methodType? {getters : Entries (Accessor Reader)}
    (h : methodGetters family type shape = .ok getters)
    (hd : d.getters = getters.fillFields shape.readFields)
    (hexposed : isExposedName property = true) :
    servedType? getters property = d.methodType? property := by
  have hserves := serves_methodGetters h
  unfold servedType? Descriptor.methodType?
  rw [hd, Entries.find?_fillFields, if_pos hexposed]
  by_cases hnone : candidates shape.getters property = []
  · rw [hserves.find?_eq_none_iff.mpr fun _ => hnone, Option.none_or]
    rcases hfield : shape.readFields.find? property with _ | accessor
    · rfl
    · have hstrategy := strategy_of_readFields hfield
      simp [hstrategy]
  · obtain ⟨method, -, hfind⟩ := hserves.chosen property hexposed hnone
    rw [hfind]
    rfl

/-- The getter method of a property has the narrowest type. Its setter method has
the type of the getter method, if some setter has, and else the narrowest
type. -/
theorem Descriptor.chooses_least (h : family.resolve type shape = .ok d)
    (hacyclic : shape.IsAcyclic family) (hexposed : isExposedName property = true) :
    (candidates shape.getters property ≠ [] → ∃ chosen,
      d.getter property = .ok chosen.accessor ∧
      Leads (OutranksGetter family) (candidates shape.getters property) chosen) ∧
    (candidates shape.setters property ≠ [] → ∃ chosen ∈ candidates shape.setters property,
      d.setter property = .ok chosen.accessor ∧
      ((∃ candidate ∈ candidates shape.setters property,
          d.methodType? property = some candidate.type) →
        d.methodType? property = some chosen.type) ∧
      ((∀ candidate ∈ candidates shape.setters property,
          d.methodType? property ≠ some candidate.type) →
        Leads (OutranksSetter family) (candidates shape.setters property) chosen)) := by
  obtain ⟨getters, setters, hgetters, hsetters, heq, heq', -⟩ := exists_of_resolve h
  constructor
  · intro hne
    obtain ⟨chosen, hfind, hleads⟩ := exists_leading_getter hgetters hacyclic hexposed hne
    refine ⟨chosen, getter_eq_ok_iff.mpr ?_, hleads⟩
    rw [heq, Entries.find?_fillFields, hfind]
    rfl
  · intro hne
    obtain ⟨chosen, hfind, hcases⟩ := exists_leading_setter hsetters hexposed hne
    have hsetter : d.setter property = .ok chosen.accessor := by
      rw [setter_eq_ok_iff, heq', Entries.find?_fillFields, hfind]
      rfl
    rw [servedType?_eq_methodType? hgetters heq hexposed] at hcases
    rcases hcases with ⟨hmem, htype⟩ | ⟨hnone, hleads⟩
    · exact ⟨chosen, hmem, hsetter, fun _ => htype, fun hnone => absurd htype (hnone chosen hmem)⟩
    · refine ⟨chosen, hleads.mem, hsetter, ?_, fun _ => hleads⟩
      rintro ⟨candidate, hmem, htype⟩
      exact absurd htype (hnone candidate hmem)

/-- An accessor method of kennels. -/
def kennelMethod {α : Type} (call : α) (name : String) (type : ValueType) : Method α :=
  { name, type, call }

/-- Dogs are animals. -/
def animals : Family :=
  { shapes := [("Animal", {}), ("Dog", { supertypes := ["Animal"] })] }

theorem acyclicAt_animals (type : ValueType) : animals.AcyclicAt type :=
  Family.acyclicAt_of_rank (fun name => if name = "Dog" then 1 else 0) (by decide) type

/-- Kennels, with two getters for each of two properties, a setter narrower than
the getter of its property, and a property that can only be written. -/
def kennels : Shape where
  getters := [
    kennelMethod (.slot "Kennel" "guest") "getGuest" .any,
    kennelMethod (.slot "Kennel" "full") "getFull" .bool,
    kennelMethod (.slot "Kennel" "full") "isFull" .bool,
    kennelMethod (.slot "Kennel" "guest") "get_guest" (.object "Animal")]
  setters := [
    kennelMethod (.slot "Kennel" "guest" .any) "setGuest" (.object "Animal"),
    kennelMethod (.slot "Kennel" "guest" .any) "set_guest" (.object "Dog"),
    kennelMethod (.slot "Kennel" "watch" .any) "setWatch" (.object "Dog"),
    kennelMethod (.slot "Kennel" "watch" .any) "set_watch" (.object "Animal")]

theorem isAcyclic_kennels : kennels.IsAcyclic animals :=
  ⟨fun method _ => acyclicAt_animals method.type, fun method _ => acyclicAt_animals method.type⟩

/-- The getter of `guest` is the narrower one, the setter that goes with it is not,
and of the boolean getters it is `isFull`. -/
theorem chooses_least_kennels :
    ∃ d, animals.resolve "Kennel" kennels = .ok d ∧
      (∃ chosen, d.getter "full" = .ok chosen.accessor ∧
        Leads (OutranksGetter animals) (candidates kennels.getters "full") chosen) ∧
      (∃ chosen ∈ candidates kennels.setters "guest",
        d.setter "guest" = .ok chosen.accessor ∧ chosen.type = .object "Animal") ∧
      ∃ chosen, d.setter "watch" = .ok chosen.accessor ∧
        Leads (OutranksSetter animals) (candidates kennels.setters "watch") chosen := by
  obtain ⟨d, hd⟩ := exists_ok_of_toBool
    (show (animals.resolve "Kennel" kennels).toBool = true by decide +kernel)
  have hmethod : (animals.resolve "Kennel" kennels).toOption.map
      (fun d => (d.methodType? "guest", d.methodType? "watch")) =
        some (some (.object "Animal"), none) := by decide +kernel
  rw [hd] at hmethod
  obtain ⟨hguest, hwatch⟩ := Prod.mk.inj (Option.some.inj hmethod)
  refine ⟨d, hd, ?_, ?_, ?_⟩
  · exact (Descriptor.chooses_least hd isAcyclic_kennels (by decide)).1 (by decide +kernel)
  · obtain ⟨chosen, hmem, hsetter, hexact, -⟩ :=
      (Descriptor.chooses_least hd isAcyclic_kennels (by decide)).2
        (show candidates kennels.setters "guest" ≠ [] by decide +kernel)
    have htype := hexact ⟨kennelMethod (.slot "Kennel" "guest" .any) "setGuest" (.object "Animal"),
      mem_candidates.mpr ⟨by simp [kennels], by decide +kernel⟩, hguest⟩
    exact ⟨chosen, hmem, hsetter, (Option.some.inj (hguest.symm.trans htype)).symm⟩
  · obtain ⟨chosen, -, hsetter, -, hleads⟩ :=
      (Descriptor.chooses_least hd isAcyclic_kennels (by decide)).2
        (show candidates kennels.setters "watch" ≠ [] by decide +kernel)
    refine ⟨chosen, hsetter, hleads fun candidate _ => ?_⟩
    rw [hwatch]
    exact nofun

end SqlMapper
