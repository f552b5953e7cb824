import SqlMapper.Proofs.Property.Records
import SqlMapper.Proofs.Property.Writes

/-!
# Reading back what was written

A path reads what was written at it: the last segment because the container
that it names keeps what it is given, and every segment before it because the
changed value is stored where it was read from, or where it was missing. Maps,
bags and lists keep everything. An object keeps what its accessors keep, so
the setters that the write goes through have to be matched by their getters.

## Main definitions

* `WriteThenRead` — the getter of a property gives what the setter accepted.
* `Value.settersAlong` — the setters that a write along a path uses.

## Main results

* `Value.readSegments_store` — the written segments read what was written.
* `Edit.readPath_applyTo` — the written path reads what was written.
-/

namespace SqlMapper

/-- Whatever value the setter of the property accepts, on any instance of the
type, the getter of the property gives that value afterwards. -/
def WriteThenRead (describe : Describe) (type : TypeName) (property : String) : Prop :=
  ∀ descriptor setter slots value changed, describe type = .ok descriptor →
    descriptor.setter property = .ok setter →
    setter.call.invoke type slots value = .ok changed →
    ∃ getter, descriptor.getter property = .ok getter ∧
      getter.call.invoke type changed = .ok value

/-- Faithful accessors that keep everything are matched. -/
theorem FaithfulAccessors.writeThenRead {describe : Describe}
    (h : FaithfulAccessors describe fun _ => True) (type : TypeName) (property : String) :
    WriteThenRead describe type property := by
  intro descriptor setter slots value changed hdescribe hsetter hinvoke
  have hstore : (Value.object type slots).storeProperty describe property value =
      .ok (.object type changed) := by
    show ((describe type >>= fun d => d.setter property) >>= fun accessor =>
      accessor.call.invoke type slots value >>= fun filled => .ok (Value.object type filled)) = _
    rw [hdescribe]
    show (descriptor.setter property >>= fun accessor =>
      accessor.call.invoke type slots value >>= fun filled => .ok (Value.object type filled)) = _
    rw [hsetter]
    show (setter.call.invoke type slots value >>= fun filled => .ok (Value.object type filled)) = _
    rw [hinvoke]
    rfl
  have hread := h.same trivial hstore
  obtain ⟨d, hd, hgetter⟩ := exists_of_bind_ok hread
  obtain rfl : descriptor = d := Except.ok.inj (hdescribe.symm.trans hd)
  exact exists_of_bind_ok hgetter

/-! ## The setters of a write -/

/-- The setter, by type and property, that a write of the segment uses on a
value. Only instances have setters, and only for a named property. -/
def Segment.setters (seg : Segment) (root : Value) : List (TypeName × String) :=
  match root, seg.keys with
  | .object type _, .name property :: _ => [(type, property)]
  | _, _ => []

/-- The setters that a write along the segments uses, from the first segment
to the last. -/
def Value.settersAlong (describe : Describe) (root value : Value) (seg : Segment) :
    List Segment → List (TypeName × String)
  | [] => seg.setters root
  | next :: rest =>
      match root.readSegment describe seg with
      | .error _ => []
      | .ok head =>
          if head.isNull && value.isNull then []
          else
            match if head.isNull then Edit.freshSegment describe root seg else .ok head with
            | .error _ => []
            | .ok child => seg.setters root ++ child.settersAlong describe value next rest

/-- The setters that a write at a path uses. -/
def Value.settersAt (describe : Describe) (root : Value) (path : String) (value : Value) :
    List (TypeName × String) :=
  root.settersAlong describe value (Path.ofString path).head (Path.ofString path).rest

/-! ## One segment -/

namespace Value

variable {describe : Describe} {root changed value : Value} {seg : Segment}

/-- A property of an object reads what was stored there. -/
theorem readProperty_store_object {type : TypeName} {slots : Slots} {property : String}
    (hsetter : WriteThenRead describe type property)
    (h : (object type slots).storeProperty describe property value = .ok changed) :
    changed.readProperty describe property = .ok value := by
  obtain ⟨setter, hfound, hstore⟩ := exists_of_bind_ok h
  obtain ⟨filled, hinvoke, hchanged⟩ := exists_of_bind_ok hstore
  obtain ⟨descriptor, hdescribe, hproperty⟩ := exists_of_bind_ok hfound
  obtain ⟨getter, hgetter, hread⟩ :=
    hsetter descriptor setter slots value filled hdescribe hproperty hinvoke
  obtain rfl : object type filled = changed := Except.ok.inj hchanged
  show (describe type >>= fun d => d.getter property >>= fun accessor =>
    accessor.call.invoke type filled) = .ok value
  rw [hdescribe]
  show (descriptor.getter property >>= fun accessor => accessor.call.invoke type filled) = .ok value
  rw [hgetter]
  exact hread

/-- The first key of a segment reads what was stored there. -/
private theorem readKey_store_first {a : Key} {as : List Key} (hkeys : seg.keys = a :: as)
    (hsetters : ∀ setter ∈ seg.setters root, WriteThenRead describe setter.1 setter.2)
    (h : root.storeKey describe a value = .ok changed) : changed.readKey describe a = .ok value := by
  refine readKey_store ?_ h
  rintro type slots property rfl rfl
  have hmem : (type, property) ∈ seg.setters (object type slots) := by
    unfold Segment.setters
    rw [hkeys]
    exact List.mem_singleton_self _
  exact readProperty_store_object (hsetters _ hmem) h

/-- A key inside a collection reads what was stored there: an element is no
property of an object. -/
private theorem readKey_store_index {index : String}
    (h : root.storeKey describe (.index index) value = .ok changed) :
    changed.readKey describe (.index index) = .ok value := by
  refine readKey_store ?_ h
  intro type slots property _ hkey
  cases hkey

/-- A segment reads what was written there. -/
theorem readSegment_store
    (hsetters : ∀ setter ∈ seg.setters root, WriteThenRead describe setter.1 setter.2)
    (h : root.storeSegment describe seg value = .ok changed) :
    changed.readSegment describe seg = .ok value := by
  rw [readSegment_eq_readKeys]
  rcases storeSegment_cases describe seg with ⟨a, hkeys, hseg⟩ | ⟨name, index, hkeys, hseg⟩ <;>
    rw [hseg] at h <;> rw [hkeys]
  · rw [readKeys_singleton]
    exact readKey_store_first hkeys hsetters h
  · obtain ⟨collection, -, hcollection⟩ := exists_of_bind_ok h
    obtain ⟨collection', helement, hstore⟩ := exists_of_bind_ok hcollection
    have hfirst := readKey_store_first hkeys hsetters hstore
    rw [readKeys_cons_of_ok hfirst, readKeys_singleton]
    exact readKey_store_index helement

/-! ## All segments -/

/-- Nothing is read from `null`. -/
theorem readSegments_null (segs : List Segment) : null.readSegments describe segs = .ok null := by
  induction segs with
  | nil => rfl
  | cons seg segs ih => exact ih

/-- The segments read what was written along them. -/
theorem readSegments_store {rest : List Segment}
    (hsetters : ∀ setter ∈ root.settersAlong describe value seg rest,
      WriteThenRead describe setter.1 setter.2)
    (h : root.storeSegments describe value seg rest = .ok changed) :
    changed.readSegments describe (seg :: rest) = .ok value := by
  induction rest generalizing root changed seg with
  | nil =>
      have hread : changed.readSegment describe seg = .ok value := readSegment_store hsetters h
      show (changed.readSegment describe seg >>= fun child => child.readSegments describe []) = _
      rw [hread]
      rfl
  | cons next rest ih =>
      show (changed.readSegment describe seg >>= fun child =>
        child.readSegments describe (next :: rest)) = _
      rcases storeSegments_cons_ok h with
        ⟨hread, rfl, rfl⟩ | ⟨head, child, child', hread, hdrop, hchild, hwrite, hstore⟩
      · rw [hread]
        exact readSegments_null _
      · unfold settersAlong at hsetters
        rw [hread] at hsetters
        dsimp only at hsetters
        rw [if_neg hdrop, hchild] at hsetters
        have hstored : changed.readSegment describe seg = .ok child' :=
          readSegment_store (fun setter hmem => hsetters setter (List.mem_append_left _ hmem)) hstore
        rw [hstored]
        exact ih (fun setter hmem => hsetters setter (List.mem_append_right _ hmem)) hwrite

end Value

/-! ## Paths -/

/-- A path reads what was written at it: whatever the value, the path and the
written value are, if the write succeeds and the setters that it uses are
matched by their getters, then the path reads exactly the written value
afterwards. -/
theorem Edit.readPath_applyTo {describe : Describe} {root changed value : Value} {path : String}
    (h : (Edit.path describe path value).applyTo root = (.ok (), changed))
    (hsetters : ∀ setter ∈ root.settersAt describe path value,
      WriteThenRead describe setter.1 setter.2) :
    changed.readPath describe path = .ok value := by
  rw [applyTo_path] at h
  have hstore : root.storePath describe path value = .ok changed := by
    rcases houtcome : root.storePath describe path value with fault | stored <;>
      rw [houtcome] at h <;> cases h
    rfl
  exact Value.readSegments_store hsetters hstore

/-! ### A write through a list and two records -/

/-- Persons, who may have an address, and addresses with a city. -/
def persons : Family where
  shapes := [
    ("Person", {
      constructor := some []
      fields := [.ofSlot "Person" "address" (.object "Address")
        (.optional (.instanceOf "Address"))] }),
    ("Address", {
      constructor := some []
      fields := [.ofSlot "Address" "city" .string .string] })]

private theorem persons_faithful : FaithfulAccessors persons.describe fun _ => True := by
  refine Family.faithful_of_shapes (fun _ => trivial) ?_
  have hperson := (Conversion.exact_instanceOf "Address").optional
  simp only [persons, List.forall_mem_cons, List.not_mem_nil, false_implies, implies_true, and_true]
  constructor
  · refine Shape.isRecord_of_slots rfl rfl fun field hmem => ⟨_, hperson, ?_⟩
    rw [List.mem_singleton.mp hmem]
    rfl
  · refine Shape.isRecord_of_slots rfl rfl fun field hmem => ⟨_, Conversion.exact_string, ?_⟩
    rw [List.mem_singleton.mp hmem]
    rfl

/-- The city of a person in a list is read back. The address is created on the
way, and the write uses the setters of both records. -/
theorem readPath_applyTo_persons :
    ∃ changed,
      let root := Value.map [("people", .list [.object "Person" []])]
      let path := "people[0].address.city"
      (Edit.path persons.describe path (.string "Oslo")).applyTo root = (.ok (), changed) ∧
        root.settersAt persons.describe path (.string "Oslo") =
          [("Person", "address"), ("Address", "city")] ∧
        changed.readPath persons.describe path = .ok (.string "Oslo") := by
  have hok : ((Edit.path persons.describe "people[0].address.city" (.string "Oslo")).applyTo
      (.map [("people", .list [.object "Person" []])])).1.toBool = true := by
    decide +kernel
  rcases hrun : (Edit.path persons.describe "people[0].address.city" (.string "Oslo")).applyTo
    (.map [("people", .list [.object "Person" []])]) with ⟨fault | _, changed⟩
  · rw [hrun] at hok
    cases hok
  · refine ⟨changed, hrun, by decide +kernel, ?_⟩
    exact Edit.readPath_applyTo hrun fun setter _ => persons_faithful.writeThenRead setter.1 setter.2

end SqlMapper
