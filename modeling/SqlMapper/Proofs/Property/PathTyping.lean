import SqlMapper.Proofs.Property.Missing
import SqlMapper.Proofs.Property.ReadBack
import SqlMapper.Proofs.Session.RowTyping

/-!
# What types say about reading paths

A type answers questions about a path without an instance: it follows the
declared types of the getters from segment to segment. An instance may hold
anything. But as long as every property that is read holds nothing or a value
of the type that its getter declares, the instance follows the types: after
each segment there is nothing, or an instance of the type that the question
has got to. So a path that the type can read is never missing on the instance.

An index is followed even where nothing is indexed. The type then goes on with
the type itself, and the instance stops there, for a reason of its own.

## Main definitions

* `Value.TypedAlong` — the properties along a path are of their declared types.

## Main results

* `Descriptor.canRead_iff` — a path can be read exactly if it has a type.
* `Value.readSegment_typed` — what one segment reads, in step with the types.
* `Descriptor.findsProperties_readPath` — what the type says about reading a
  path, and what holds for its instances.
-/

namespace SqlMapper

/-! ## Instances along a path -/

namespace Value

variable (describe : Describe)

/-- What an instance reads as a property is absent or of the type that the
getter declares. -/
def PropertyTyped (type : TypeName) (slots : Slots) (property : String) : Prop :=
  match (describe type).bind fun d => d.getterType property,
    (object type slots).readProperty describe property with
  | .ok declared, .ok value => value.HasTypeOrNull declared
  | _, _ => True

/-- The property that the segment names is typed, if it is read from an
instance. -/
def SegmentTyped (root : Value) (seg : Segment) : Prop :=
  match root, seg.keys with
  | object type slots, .name property :: _ => PropertyTyped describe type slots property
  | _, _ => True

/-- Every property that is read along the segments is absent or of the type
that its getter declares. -/
def TypedAlong (root : Value) : List Segment → Prop
  | [] => True
  | seg :: rest =>
      root.SegmentTyped describe seg ∧
        match root.readSegment describe seg with
        | .ok child => child.TypedAlong rest
        | .error _ => True

instance (type : TypeName) (slots : Slots) (property : String) :
    Decidable (PropertyTyped describe type slots property) := by
  unfold PropertyTyped
  exact match (describe type).bind fun d => d.getterType property,
      (object type slots).readProperty describe property with
    | .ok _, .ok _ => inferInstance
    | .ok _, .error _ | .error _, _ => .isTrue trivial

instance (root : Value) (seg : Segment) : Decidable (root.SegmentTyped describe seg) := by
  unfold SegmentTyped
  exact match root, seg.keys with
    | object _ _, .name _ :: _ => inferInstance
    | object _ _, .index _ :: _ | object _ _, [] | null, _ | bool _, _ | int _, _ | long _, _
    | double _, _ | string _, _ | bytes _, _ | list _, _ | map _, _ | params _, _ => .isTrue trivial

instance decidableTypedAlong (root : Value) :
    (segs : List Segment) → Decidable (root.TypedAlong describe segs)
  | [] => .isTrue trivial
  | seg :: rest =>
      have : Decidable (match root.readSegment describe seg with
          | .ok child => child.TypedAlong describe rest
          | .error _ => True) :=
        match root.readSegment describe seg with
        | .ok child => decidableTypedAlong child rest
        | .error _ => .isTrue trivial
      inferInstanceAs (Decidable (_ ∧ _))

end Value

/-! ## Questions about one property and about several segments -/

namespace Descriptor

variable {describe : Describe} {d child : Descriptor} {seg next : Segment} {rest : List Segment}
  {property : String}

theorem hasGetter_iff :
    d.hasGetter property = true ↔ ∃ accessor, d.getter property = .ok accessor := by
  unfold hasGetter Entries.has
  rw [Option.isSome_iff_exists]
  exact exists_congr fun accessor => getter_eq_ok_iff.symm

theorem hasSetter_iff :
    d.hasSetter property = true ↔ ∃ accessor, d.setter property = .ok accessor := by
  unfold hasSetter Entries.has
  rw [Option.isSome_iff_exists]
  exact exists_congr fun accessor => setter_eq_ok_iff.symm

theorem getterType_eq_ok_iff {type : ValueType} :
    d.getterType property = .ok type ↔
      ∃ accessor, d.getter property = .ok accessor ∧ accessor.type = type := by
  unfold getterType
  rcases d.getter property with fault | accessor
  · simp [Except.map]
  · simp [Except.map]

/-- The type of a segment: that of its property, or of an element of it. -/
theorem segmentType_eq_ok_iff {type : ValueType} :
    d.segmentType seg = .ok type ↔ ∃ declared, d.getterType seg.name = .ok declared ∧
      (if seg.index.isSome then declared.element else declared) = type := by
  unfold segmentType
  rcases d.getterType seg.name with fault | declared
  · exact ⟨nofun, nofun⟩
  · show Except.ok _ = Except.ok _ ↔ _
    simp

/-- A question goes on behind a segment whose type is an object type. -/
theorem step_eq_ok_iff : d.step describe seg = .ok child ↔
    ∃ name, d.segmentType seg = .ok (.object name) ∧ describe name = .ok child := by
  unfold step
  rcases d.segmentType seg with fault | type
  · exact ⟨nofun, nofun⟩
  · cases type with
    | object name => exact ⟨fun h => ⟨name, rfl, h⟩, fun ⟨_, h, hchild⟩ => by cases h; exact hchild⟩
    | _ => exact ⟨nofun, nofun⟩

/-- A property that a question goes on behind can be read. -/
theorem hasGetter_of_step (h : d.step describe seg = .ok child) : d.hasGetter seg.name = true := by
  obtain ⟨name, hsegment, -⟩ := step_eq_ok_iff.mp h
  obtain ⟨declared, hdeclared, -⟩ := segmentType_eq_ok_iff.mp hsegment
  obtain ⟨accessor, haccessor, -⟩ := getterType_eq_ok_iff.mp hdeclared
  exact hasGetter_iff.mpr ⟨accessor, haccessor⟩

theorem canRead_cons : d.canRead describe seg (next :: rest) = true ↔
    ∃ child, d.step describe seg = .ok child ∧ child.canRead describe next rest = true := by
  rw [canRead]
  rcases hstep : d.step describe seg with fault | child
  · simp
  · simp [hasGetter_of_step hstep]

theorem canWrite_cons : d.canWrite describe seg (next :: rest) = true ↔
    d.hasSetter seg.name = true ∧
      ∃ child, d.step describe seg = .ok child ∧ child.canWrite describe next rest = true := by
  rw [canWrite]
  rcases d.step describe seg with fault | child <;> simp

/-- The segments can be read exactly if they have a type. -/
theorem canRead_iff :
    d.canRead describe seg rest = true ↔ ∃ type, d.readType describe seg rest = .ok type := by
  induction rest generalizing d seg with
  | nil =>
      show d.hasGetter seg.name = true ↔ ∃ type, d.segmentType seg = .ok type
      rw [hasGetter_iff]
      constructor
      · rintro ⟨accessor, h⟩
        exact ⟨_, segmentType_eq_ok_iff.mpr
          ⟨accessor.type, getterType_eq_ok_iff.mpr ⟨accessor, h, rfl⟩, rfl⟩⟩
      · rintro ⟨type, h⟩
        obtain ⟨declared, hdeclared, -⟩ := segmentType_eq_ok_iff.mp h
        obtain ⟨accessor, haccessor, -⟩ := getterType_eq_ok_iff.mp hdeclared
        exact ⟨accessor, haccessor⟩
  | cons next rest ih =>
      show _ ↔ ∃ type, (d.step describe seg >>= fun child =>
        child.readType describe next rest) = .ok type
      rw [canRead_cons]
      rcases d.step describe seg with fault | child
      · exact ⟨nofun, nofun⟩
      · exact ⟨fun ⟨_, h, hread⟩ => by cases h; exact ih.mp hread,
          fun h => ⟨child, rfl, ih.mpr h⟩⟩

end Descriptor

/-! ## Reading in step with the types -/

namespace Value

variable {describe : Describe} {type : TypeName} {slots : Slots} {d child : Descriptor}
  {seg : Segment} {rest : List Segment} {head : Value}

/-- A property with a getter is not missing. -/
theorem findsProperties_readProperty {property : String} (hd : describe type = .ok d)
    (hgetter : d.hasGetter property = true) :
    FindsProperties ((object type slots).readProperty describe property) := by
  obtain ⟨accessor, haccessor⟩ := Descriptor.hasGetter_iff.mp hgetter
  show FindsProperties (describe type >>= fun d => d.getter property >>= fun accessor =>
    accessor.call.invoke type slots)
  rw [hd]
  show FindsProperties (d.getter property >>= fun accessor => accessor.call.invoke type slots)
  rw [haccessor]
  exact accessor.call.findsProperties_invoke type slots

/-- A segment whose property has a getter is not missing. -/
theorem findsProperties_readSegment (hd : describe type = .ok d)
    (hgetter : d.hasGetter seg.name = true) :
    FindsProperties ((object type slots).readSegment describe seg) := by
  rw [readSegment_eq_readKeys]
  unfold Segment.keys
  split
  · rw [readKeys_singleton]
    exact findsProperties_readProperty hd hgetter
  · split
    · rw [readKeys_singleton]
      exact (object type slots).findsProperties_readIndex _
    · rw [readKeys_cons]
      refine .bind_all (findsProperties_readProperty hd hgetter) fun collection => ?_
      rw [readKeys_singleton]
      exact findsProperties_readIndex collection _

/-- What a typed property reads. -/
theorem PropertyTyped.hasTypeOrNull {property : String} {declared : ValueType} {value : Value}
    (h : PropertyTyped describe type slots property) (hd : describe type = .ok d)
    (hdeclared : d.getterType property = .ok declared)
    (hread : (object type slots).readProperty describe property = .ok value) :
    value.HasTypeOrNull declared := by
  have htype : ((describe type).bind fun d => d.getterType property) = .ok declared := by
    rw [hd]
    exact hdeclared
  unfold PropertyTyped at h
  rwa [htype, hread] at h

/-- An element of a value of some type is absent or of the element type, if
there are elements at all. -/
theorem hasTypeOrNull_of_readIndex {collection : Value} {declared : ValueType} {name : TypeName}
    {index : String} (htype : collection.HasTypeOrNull declared)
    (helement : declared.element = .object name)
    (hread : collection.readIndex index = .ok head) : head.HasTypeOrNull (.object name) := by
  rcases htype with rfl | htype
  · cases hread
    exact .inl rfl
  · cases htype with
    | @list items element hitems =>
        obtain rfl : element = .object name := helement
        obtain ⟨position, -, hitem⟩ := exists_of_bind_ok hread
        obtain rfl := Except.ok.inj hitem
        rcases hget : items[position]? with _ | item
        · exact .inl rfl
        · by_cases hnull : item = .null
          · exact .inl hnull
          · exact .inr (hitems item (List.mem_of_getElem? hget) hnull)
    | object found slots => cases hread
    | _ => cases helement

/-- What a typed segment reads is absent or an instance of the type that the
question goes on with. -/
theorem readSegment_typed (hd : describe type = .ok d)
    (htyped : (object type slots).SegmentTyped describe seg)
    (hstep : d.step describe seg = .ok child)
    (hread : (object type slots).readSegment describe seg = .ok head) :
    head = null ∨ ∃ name inner, head = object name inner ∧ describe name = .ok child := by
  obtain ⟨name, hsegment, hchild⟩ := Descriptor.step_eq_ok_iff.mp hstep
  obtain ⟨declared, hdeclared, helement⟩ := Descriptor.segmentType_eq_ok_iff.mp hsegment
  suffices htype : head.HasTypeOrNull (.object name) by
    rcases htype with hnull | htype
    · exact .inl hnull
    · cases htype
      exact .inr ⟨name, _, rfl, hchild⟩
  rw [readSegment_eq_readKeys] at hread
  unfold SegmentTyped at htyped
  unfold Segment.keys at hread htyped
  rcases hindex : seg.index with _ | index <;> rw [hindex] at hread htyped helement
  · rw [readKeys_singleton] at hread
    rw [← helement]
    exact htyped.hasTypeOrNull hd hdeclared hread
  · dsimp only at hread htyped
    by_cases hname : seg.name.isEmpty = true
    · -- an instance has no elements
      rw [if_pos hname, readKeys_singleton] at hread
      cases hread
    · rw [if_neg hname] at hread htyped
      rw [readKeys_cons] at hread
      obtain ⟨collection, hcollection, hread⟩ := exists_of_bind_ok hread
      rw [readKeys_singleton] at hread
      exact hasTypeOrNull_of_readIndex (htyped.hasTypeOrNull hd hdeclared hcollection) helement hread

/-- On an instance that is typed along the segments, segments that the type
can read are not missing. -/
theorem findsProperties_readSegments (hd : describe type = .ok d)
    (hread : d.canRead describe seg rest = true)
    (htyped : (object type slots).TypedAlong describe (seg :: rest)) :
    FindsProperties ((object type slots).readSegments describe (seg :: rest)) := by
  induction rest generalizing type slots d seg with
  | nil =>
      show FindsProperties ((object type slots).readSegment describe seg >>= fun head => .ok head)
      exact .bind_all (findsProperties_readSegment hd hread) fun _ => trivial
  | cons next rest ih =>
      obtain ⟨child, hstep, hrest⟩ := Descriptor.canRead_cons.mp hread
      have hgetter := Descriptor.hasGetter_of_step hstep
      show FindsProperties ((object type slots).readSegment describe seg >>= fun head =>
        head.readSegments describe (next :: rest))
      refine .bind (findsProperties_readSegment hd hgetter) fun head hhead => ?_
      obtain ⟨hsegment, hinner⟩ := htyped
      rw [hhead] at hinner
      rcases readSegment_typed hd hsegment hstep hhead with rfl | ⟨name, inner, rfl, hchild⟩
      · rw [readSegments_null]
        trivial
      · exact ih hchild hrest hinner

end Value

/-! ## Paths -/

/-- A path can be read on a type exactly if it has a type there. If it can be
read, then on every instance along which each property that is read is absent
or of exactly the declared type, reading the path does not fail because a
property is missing. -/
theorem Descriptor.findsProperties_readPath {family : Family} {type : TypeName} {d : Descriptor}
    (hd : family.describe type = .ok d) (path : String) :
    (d.canReadPath family.describe path = true ↔
      ∃ declared, d.pathReadType family.describe path = .ok declared) ∧
    (d.canReadPath family.describe path = true →
      ∀ slots : Slots,
        (Value.object type slots).TypedAlong family.describe (Path.ofString path).segments →
          FindsProperties ((Value.object type slots).readPath family.describe path)) :=
  ⟨canRead_iff, fun hread _ htyped => Value.findsProperties_readSegments hd hread htyped⟩

/-! ### A path through a list and two instances of one type -/

/-- Persons, who may have a partner and friends. -/
def people : Family where
  shapes := [
    ("Person", {
      fields := [
        .ofSlot "Person" "name" .string .string,
        .ofSlot "Person" "partner" (.object "Person") .any,
        .ofSlot "Person" "friends" (.list (.object "Person")) .any] })]

/-- The name of a friend's partner can be read of a person with two friends,
one of whom is absent, and so it is not missing. -/
theorem findsProperties_readPath_people :
    let ada : Slots := [("name", .string "Ada")]
    let bob : Slots := [("name", .string "Bob"), ("partner", .object "Person" ada)]
    let cleo : Slots := [("friends", .list [.object "Person" bob, .null])]
    let path := "friends[0].partner.name"
    (Value.object "Person" cleo).TypedAlong people.describe (Path.ofString path).segments ∧
      FindsProperties ((Value.object "Person" cleo).readPath people.describe path) := by
  intro ada bob cleo path
  obtain ⟨d, hd, hread⟩ := exists_ok_of_any
    (show (people.describe "Person").toOption.any
      (fun d => d.canReadPath people.describe path) = true by decide +kernel)
  have htyped : (Value.object "Person" cleo).TypedAlong people.describe
      (Path.ofString path).segments := by
    decide +kernel
  exact ⟨htyped, (Descriptor.findsProperties_readPath hd path).2 hread cleo htyped⟩

end SqlMapper
