import SqlMapper.Property.Descriptor

/-!
# The descriptor cache

A cache builds the descriptor of a type on first demand and keeps it. Every
descriptor that is built has a serial number, so that one can tell an
instance that was kept from one that was built again. A failed build keeps
nothing.
-/

namespace SqlMapper

/-- A descriptor as it was built, with the number of the build. -/
structure BuiltDescriptor where
  serial : Nat
  descriptor : Descriptor

/-- The descriptors that are kept, and how many were built. -/
structure DescriptorCache where
  kept : Entries BuiltDescriptor := []
  builds : Nat := 0

namespace DescriptorCache

/-- The descriptor of a type: the kept one, or else a new one, which is kept
from then on. -/
def describe (family : Family) (type : TypeName) :
    ExceptT Fault (StateM DescriptorCache) BuiltDescriptor := do
  let cache ← get
  match cache.kept.find? type with
  | some built => return built
  | none =>
      let descriptor ← family.describe type
      let built := { serial := cache.builds, descriptor }
      set { kept := cache.kept.put type built, builds := cache.builds + 1 : DescriptorCache }
      return built

/-- Number of types that are kept. -/
def size (cache : DescriptorCache) : Nat := cache.kept.length

end DescriptorCache

end SqlMapper
