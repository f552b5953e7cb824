import Mathlib.Data.List.Dedup
import SqlMapper.Proofs.Association
import SqlMapper.Proofs.Run
import SqlMapper.Property.Cache

/-!
# What the cache keeps

A cache that starts empty keeps nothing but what a build gives: whatever was asked
of it, a kept descriptor is the one that a build would give now, and the builds are
told apart by their numbers. One demand after the other keeps it so, and answers as a
build does.

## Main definitions

* `DescriptorCache.Faithful` — the cache keeps nothing but what a build gives.
* `DescriptorCache.describeAll` — one demand after the other.
* `DescriptorCache.Describes` — what demands for descriptors answer and leave.

## Main results

* `DescriptorCache.Faithful.describe_eq`, `DescriptorCache.Faithful.describe` — one
  demand.
* `DescriptorCache.describes_describeAll` — any demands of an empty cache.
-/

namespace SqlMapper.DescriptorCache

variable {family : Family} {cache : DescriptorCache} {type : TypeName} {built : BuiltDescriptor}

/-! ## One demand -/

/-- The cache keeps nothing but what a build gives, and no two builds have the same
number. -/
structure Faithful (family : Family) (cache : DescriptorCache) : Prop where
  fresh : ∀ type built, cache.kept.find? type = some built →
    family.describe type = .ok built.descriptor
  distinct : cache.kept.keys.Nodup
  older : ∀ type built, cache.kept.find? type = some built → built.serial < cache.builds
  identified : ∀ type other built built', cache.kept.find? type = some built →
    cache.kept.find? other = some built' → built.serial = built'.serial → type = other

theorem faithful_empty (family : Family) : Faithful family {} where
  fresh _ _ h := by cases h
  distinct := List.nodup_nil
  older _ _ h := by cases h
  identified _ _ _ _ h := by cases h

/-- A demand finds what is kept, or it fails with the build and keeps nothing, or it
keeps what was built, under the next number. -/
theorem describe_cases (family : Family) (type : TypeName) (cache : DescriptorCache) :
    (∃ built, cache.kept.find? type = some built ∧
      (describe family type).run cache = (.ok built, cache)) ∨
    (∃ fault, family.describe type = .error fault ∧
      (describe family type).run cache = (.error fault, cache)) ∨
    ∃ descriptor, cache.kept.find? type = none ∧ family.describe type = .ok descriptor ∧
      (describe family type).run cache =
        (.ok { serial := cache.builds, descriptor },
          { kept := cache.kept.put type { serial := cache.builds, descriptor }
            builds := cache.builds + 1 }) := by
  unfold describe
  rw [run_bind_of_ok (run_get cache)]
  rcases hkept : cache.kept.find? type with _ | built
  · rcases hbuild : family.describe type with fault | descriptor
    · exact .inr (.inl ⟨fault, rfl, rfl⟩)
    · exact .inr (.inr ⟨descriptor, rfl, rfl, rfl⟩)
  · exact .inl ⟨built, rfl, rfl⟩

/-- A build that fails keeps nothing. -/
theorem run_describe_of_fault {fault : Fault}
    (h : ((describe family type).run cache).1 = .error fault) :
    ((describe family type).run cache).2 = cache := by
  rcases describe_cases family type cache with ⟨built, -, hrun⟩ | ⟨_, -, hrun⟩ | ⟨d, -, -, hrun⟩ <;>
    rw [hrun] at h ⊢
  cases h

/-- Nothing that is kept is lost. -/
def KeptBy (cache cache' : DescriptorCache) : Prop :=
  ∀ type built, cache.kept.find? type = some built → cache'.kept.find? type = some built

theorem KeptBy.refl (cache : DescriptorCache) : cache.KeptBy cache := fun _ _ h => h

theorem KeptBy.trans {cache' cache'' : DescriptorCache} (h : cache.KeptBy cache')
    (h' : cache'.KeptBy cache'') : cache.KeptBy cache'' :=
  fun type built hkept => h' type built (h type built hkept)

theorem keptBy_describe (family : Family) (type : TypeName) (cache : DescriptorCache) :
    cache.KeptBy ((describe family type).run cache).2 := by
  rcases describe_cases family type cache with ⟨built, -, hrun⟩ | ⟨_, -, hrun⟩ |
    ⟨d, hnew, -, hrun⟩ <;> rw [hrun]
  · exact .refl cache
  · exact .refl cache
  · intro other kept hkept
    have hne : type ≠ other := by
      rintro rfl
      rw [hnew] at hkept
      cases hkept
    rw [Entries.find?_put, if_neg hne, hkept]

namespace Faithful

/-- A demand answers as a build does. -/
theorem describe_eq (h : cache.Faithful family) (type : TypeName) :
    ((DescriptorCache.describe family type).run cache).1.map BuiltDescriptor.descriptor =
      family.describe type := by
  rcases describe_cases family type cache with ⟨built, hkept, hrun⟩ | ⟨_, hbuild, hrun⟩ |
    ⟨d, -, hbuild, hrun⟩ <;> rw [hrun]
  · exact (h.fresh type built hkept).symm
  · exact hbuild.symm
  · exact hbuild.symm

/-- What a demand answers is kept from then on. -/
theorem kept_of_describe (h : ((DescriptorCache.describe family type).run cache).1 = .ok built) :
    ((DescriptorCache.describe family type).run cache).2.kept.find? type = some built := by
  rcases describe_cases family type cache with ⟨built', hkept, hrun⟩ | ⟨_, -, hrun⟩ |
    ⟨d, -, -, hrun⟩ <;> rw [hrun] at h ⊢
  · rw [← Except.ok.inj h, hkept]
  · cases h
  · rw [← Except.ok.inj h, Entries.find?_put, if_pos rfl]

/-- After a demand the cache still keeps nothing but what a build gives. -/
theorem describe (h : cache.Faithful family) (type : TypeName) :
    ((DescriptorCache.describe family type).run cache).2.Faithful family := by
  rcases describe_cases family type cache with ⟨built, -, hrun⟩ | ⟨_, -, hrun⟩ |
    ⟨d, hnew, hbuild, hrun⟩ <;> rw [hrun]
  · exact h
  · exact h
  · -- a name finds what was built now, or else what it found before
    have hfind (other : TypeName) (kept : BuiltDescriptor)
        (hkept : (cache.kept.put type { serial := cache.builds, descriptor := d }).find? other =
          some kept) :
        type = other ∧ kept = { serial := cache.builds, descriptor := d } ∨
          type ≠ other ∧ cache.kept.find? other = some kept := by
      rw [Entries.find?_put] at hkept
      split at hkept
      · next heq => exact .inl ⟨heq, (Option.some.inj hkept).symm⟩
      · next hne => exact .inr ⟨hne, hkept⟩
    refine {
      fresh := fun other kept hkept => ?_
      distinct := Entries.nodup_keys_put h.distinct
      older := fun other kept hkept => ?_
      identified := fun other other' kept kept' hkept hkept' hserial => ?_ }
    · rcases hfind other kept hkept with ⟨rfl, rfl⟩ | ⟨-, hold⟩
      · exact hbuild
      · exact h.fresh other kept hold
    · rcases hfind other kept hkept with ⟨-, rfl⟩ | ⟨-, hold⟩
      · exact Nat.lt_succ_self _
      · exact Nat.lt_succ_of_lt (h.older other kept hold)
    · rcases hfind other kept hkept with ⟨rfl, rfl⟩ | ⟨-, hold⟩ <;>
        rcases hfind other' kept' hkept' with ⟨heq, rfl⟩ | ⟨-, hold'⟩
      · exact heq
      · have hlt := h.older other' kept' hold'
        dsimp only at hserial
        omega
      · have hlt := h.older other kept hold
        dsimp only at hserial
        omega
      · exact h.identified other other' kept kept' hold hold' hserial

end Faithful

/-! ## One demand after the other -/

/-- Demands for the descriptors of the types, one after the other. A demand that
fails does not end the run. -/
def describeAll (family : Family) (types : List TypeName) :
    StateM DescriptorCache (List (Except Fault BuiltDescriptor)) :=
  types.mapM fun type => (describe family type).run

theorem run_describeAll_cons (type : TypeName) (types : List TypeName) :
    (describeAll family (type :: types)).run cache =
      (((describe family type).run cache).1 ::
          ((describeAll family types).run ((describe family type).run cache).2).1,
        ((describeAll family types).run ((describe family type).run cache).2).2) := by
  unfold describeAll
  rw [List.mapM_cons]
  rfl

theorem Faithful.describeAll (h : cache.Faithful family) (types : List TypeName) :
    ((describeAll family types).run cache).2.Faithful family := by
  induction types generalizing cache with
  | nil => exact h
  | cons type types ih =>
      rw [run_describeAll_cons]
      exact ih (h.describe type)

theorem keptBy_describeAll (family : Family) (types : List TypeName) (cache : DescriptorCache) :
    cache.KeptBy ((describeAll family types).run cache).2 := by
  induction types generalizing cache with
  | nil => exact .refl cache
  | cons type types ih =>
      rw [run_describeAll_cons]
      exact (keptBy_describe family type cache).trans (ih _)

theorem Faithful.describeAll_eq (h : cache.Faithful family) (types : List TypeName) :
    ((DescriptorCache.describeAll family types).run cache).1.map
      (Except.map BuiltDescriptor.descriptor) = types.map family.describe := by
  induction types generalizing cache with
  | nil => rfl
  | cons type types ih =>
      rw [run_describeAll_cons, List.map_cons, List.map_cons, h.describe_eq, ih (h.describe type)]

/-- What is answered along the way is kept at the end. -/
theorem kept_of_describeAll {types : List TypeName} {i : Nat} (htype : types[i]? = some type)
    (h : ((describeAll family types).run cache).1[i]? = some (.ok built)) :
    ((describeAll family types).run cache).2.kept.find? type = some built := by
  induction types generalizing cache i with
  | nil => simp at htype
  | cons first types ih =>
      rw [run_describeAll_cons] at h ⊢
      cases i with
      | zero =>
          obtain rfl := Option.some.inj htype
          exact keptBy_describeAll family types _ _ built
            (Faithful.kept_of_describe (Option.some.inj h))
      | succ i => exact ih htype h

/-- A type is kept if it was kept before, or demanded with success. -/
theorem mem_keys_describe {other : TypeName} :
    other ∈ ((describe family type).run cache).2.kept.keys ↔
      other ∈ cache.kept.keys ∨ other = type ∧ (family.describe type).toBool = true := by
  rcases describe_cases family type cache with ⟨built, hkept, hrun⟩ | ⟨_, hbuild, hrun⟩ |
    ⟨d, -, hbuild, hrun⟩ <;> rw [hrun]
  · have hmem : type ∈ cache.kept.keys := by
      rw [← Entries.find?_isSome_iff, hkept]
      rfl
    exact ⟨.inl, fun h => h.elim id fun h => h.1 ▸ hmem⟩
  · rw [hbuild]
    exact ⟨.inl, fun h => h.elim id fun h => absurd h.2 Bool.false_ne_true⟩
  · rw [← Entries.find?_isSome_iff, Entries.find?_put, hbuild]
    by_cases heq : type = other
    · rw [if_pos heq]
      exact ⟨fun _ => .inr ⟨heq.symm, rfl⟩, fun _ => rfl⟩
    · rw [if_neg heq, Entries.find?_isSome_iff]
      exact ⟨.inl, fun h => h.elim id fun h => absurd h.1.symm heq⟩

theorem mem_keys_describeAll {types : List TypeName} {other : TypeName} :
    other ∈ ((describeAll family types).run cache).2.kept.keys ↔
      other ∈ cache.kept.keys ∨ other ∈ types ∧ (family.describe other).toBool = true := by
  induction types generalizing cache with
  | nil =>
      show other ∈ cache.kept.keys ↔ _
      simp
  | cons type types ih =>
      rw [run_describeAll_cons, ih, mem_keys_describe, List.mem_cons, or_and_right, or_assoc]
      have hsame : other = type ∧ (family.describe type).toBool = true ↔
          other = type ∧ (family.describe other).toBool = true :=
        and_congr_right fun h => h ▸ Iff.rfl
      rw [hsame]

/-- What demands for the descriptors of the types answer, and what they leave. -/
structure Describes (family : Family) (types : List TypeName)
    (answers : List (Except Fault BuiltDescriptor)) (cache : DescriptorCache) : Prop where
  /-- Every demand answers as a build does. -/
  contents : answers.map (Except.map BuiltDescriptor.descriptor) = types.map family.describe
  /-- What a demand gives is kept under its type, so that later demands for it give the
  same instance. -/
  kept : ∀ (i : Nat) (type : TypeName) (built : BuiltDescriptor), types[i]? = some type →
    answers[i]? = some (.ok built) → cache.kept.find? type = some built
  /-- Instances are the same for the same type, and for no others. -/
  instances : ∀ (i j : Nat) (type other : TypeName) (built built' : BuiltDescriptor),
    types[i]? = some type → types[j]? = some other → answers[i]? = some (.ok built) →
      answers[j]? = some (.ok built') → (built.serial = built'.serial ↔ type = other)
  /-- A demand that fails keeps nothing. -/
  fault : ∀ type fault, ((describe family type).run cache).1 = .error fault →
    ((describe family type).run cache).2 = cache
  /-- As many descriptors are kept as types were demanded with success. -/
  size : cache.size = (types.filter fun type => (family.describe type).toBool).dedup.length

theorem describes_describeAll (family : Family) (types : List TypeName) :
    Describes family types ((describeAll family types).run {}).1
      ((describeAll family types).run {}).2 where
  contents := (faithful_empty family).describeAll_eq types
  kept _ _ _ := kept_of_describeAll
  instances i j type other built built' hi hj hbuilt hbuilt' := by
    have hkept := kept_of_describeAll hi hbuilt
    have hkept' := kept_of_describeAll hj hbuilt'
    constructor
    · have hfaithful := (faithful_empty family).describeAll types
      exact hfaithful.identified type other built built' hkept hkept'
    · rintro rfl
      rw [Option.some.inj (hkept.symm.trans hkept')]
  fault _ _ := run_describe_of_fault
  size := by
    have hkeys : ((describeAll family types).run {}).2.kept.keys.Perm
        (types.filter fun type => (family.describe type).toBool).dedup := by
      refine (List.perm_ext_iff_of_nodup ((faithful_empty family).describeAll types).distinct
        (List.nodup_dedup _)).mpr fun type => ?_
      rw [mem_keys_describeAll, List.mem_dedup, List.mem_filter]
      exact or_iff_right List.not_mem_nil
    have hlength := hkeys.length_eq
    rwa [Entries.keys, List.length_map] at hlength

end SqlMapper.DescriptorCache
