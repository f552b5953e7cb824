import SqlMapper.Proofs.Property.PathTyping

/-!
# What types say about writing paths

Whether a path can be written is asked of the declared types of the getters,
and at every segment whether there is a setter. The write itself follows the
instance. It reads every segment before the last one, and stores every segment
back. In two places it goes on where the question has not been:

* an element of a property is written into what the property reads as, so the
  last segment has to be read as well, which the question does not ask;
* an absent value is created from the type that the *setter* declares, and a
  new instance holds what its constructor gives it.

So a path that can be written is not missing on an instance that is typed
along it, as long as the last segment can be read where it is an element of a
property, and whatever is created takes the rest of the write.

## Main definitions

* `Descriptor.CanStore` — the segments can be written, and read where an
  element of a property is written.
* `Value.CreatesTyped` — what a write creates takes the rest of it.

## Main results

* `Edit.findsProperties_freshSegment` — creating a value asks for one setter.
* `Value.findsProperties_storeSegments` — a write in step with the types.
* `Descriptor.findsProperties_writePath` — what the type says about writing a
  path, and what holds for its instances.
-/

namespace SqlMapper

/-! ## Values that take a write -/

/-- The segment is an element of a property. -/
def Segment.isElement (seg : Segment) : Bool := seg.index.isSome && !seg.name.isEmpty

/-- The segment is an element of the value itself. -/
def Segment.isBareIndex (seg : Segment) : Bool := seg.index.isSome && seg.name.isEmpty

/-- The segments can be written, and read as well if the last of them is an
element of a property. -/
def Descriptor.CanStore (describe : Describe) (d : Descriptor) (seg : Segment)
    (rest : List Segment) : Prop :=
  d.canWrite describe seg rest = true ∧
    ((rest.getLastD seg).isElement = true → d.canRead describe seg rest = true)

instance (describe : Describe) (d : Descriptor) (seg : Segment) (rest : List Segment) :
    Decidable (d.CanStore describe seg rest) := by
  unfold Descriptor.CanStore
  infer_instance

namespace Value

variable (describe : Describe)

/-- A new value takes a write along the segments: an instance if they can be
stored on its type, a list if the first of them is an index. Maps and bags
take every write. -/
def Takes (root : Value) (seg : Segment) (rest : List Segment) : Prop :=
  match root with
  | object type _ => ∀ d, describe type = .ok d → d.CanStore describe seg rest
  | list _ => seg.isBareIndex = true
  | _ => True

/-- Wherever a write of `value` along the segments creates a value, this takes
the rest of the write and is typed along it. -/
def CreatesTyped (value root : Value) (seg : Segment) : List Segment → Prop
  | [] => True
  | next :: rest =>
      match root.readSegment describe seg with
      | .error _ => True
      | .ok head =>
          if head.isNull then
            if value.isNull then True
            else
              match Edit.freshSegment describe root seg with
              | .error _ => True
              | .ok fresh =>
                  fresh.Takes describe next rest ∧ fresh.TypedAlong describe (next :: rest) ∧
                    CreatesTyped value fresh next rest
          else CreatesTyped value head next rest

instance (root : Value) (seg : Segment) (rest : List Segment) :
    Decidable (root.Takes describe seg rest) :=
  match root with
  | object type _ =>
      match hd : describe type with
      | .ok d =>
          decidable_of_iff (d.CanStore describe seg rest)
            ⟨fun h _ hd' => Except.ok.inj (hd.symm.trans hd') ▸ h, fun h => h d hd⟩
      | .error _ => .isTrue fun _ hd' => nomatch hd.symm.trans hd'
  | list _ => inferInstanceAs (Decidable (seg.isBareIndex = true))
  | null | bool _ | int _ | long _ | double _ | string _ | bytes _ | map _ | params _ =>
      .isTrue trivial

instance decidableCreatesTyped (value root : Value) (seg : Segment) :
    (rest : List Segment) → Decidable (CreatesTyped describe value root seg rest)
  | [] => .isTrue trivial
  | next :: rest => by
      unfold CreatesTyped
      exact match root.readSegment describe seg with
        | .error _ => .isTrue trivial
        | .ok head =>
            have := decidableCreatesTyped value head next rest
            have : Decidable (match Edit.freshSegment describe root seg with
                | .error _ => True
                | .ok fresh =>
                    fresh.Takes describe next rest ∧ fresh.TypedAlong describe (next :: rest) ∧
                      CreatesTyped describe value fresh next rest) :=
              match Edit.freshSegment describe root seg with
              | .error _ => .isTrue trivial
              | .ok fresh =>
                  have := decidableCreatesTyped value fresh next rest
                  inferInstance
            inferInstance

end Value

/-! ## Writing one segment -/

namespace Value

variable {describe : Describe} {type : TypeName} {slots : Slots} {d : Descriptor} {seg : Segment}

theorem findsProperties_storeElement (root : Value) (index : String) (value : Value) :
    FindsProperties (root.storeElement index value) := by
  cases root with
  | list items => exact (findsProperties_listPosition index items.length).bind_all fun _ => trivial
  | _ => trivial

/-- A property with a setter is not missing. -/
theorem findsProperties_storeProperty {property : String} (hd : describe type = .ok d)
    (hsetter : d.hasSetter property = true) (value : Value) :
    FindsProperties ((object type slots).storeProperty describe property value) := by
  obtain ⟨accessor, haccessor⟩ := Descriptor.hasSetter_iff.mp hsetter
  have hfound : ((describe type).bind fun d => d.setter property) = .ok accessor := by
    rw [hd]
    exact haccessor
  show FindsProperties (((describe type).bind fun d => d.setter property) >>= fun accessor =>
    accessor.call.invoke type slots value >>= fun filled => .ok (object type filled))
  rw [hfound]
  exact (accessor.call.findsProperties_invoke type slots value).bind_all fun _ => trivial

/-- A segment is not missing if its property has a setter, and a getter if an
element of the property is written. -/
theorem findsProperties_storeSegment (hd : describe type = .ok d)
    (hsetter : d.hasSetter seg.name = true)
    (hgetter : seg.isElement = true → d.hasGetter seg.name = true) (value : Value) :
    FindsProperties ((object type slots).storeSegment describe seg value) := by
  unfold storeSegment
  rcases hindex : seg.index with _ | index
  · exact findsProperties_storeProperty hd hsetter value
  · dsimp only
    by_cases hname : seg.name.isEmpty = true
    · rw [if_pos hname]
      exact findsProperties_storeElement _ _ _
    · rw [if_neg hname]
      have helement : seg.isElement = true := by simp [Segment.isElement, hindex, hname]
      refine .bind_all (findsProperties_readProperty hd (hgetter helement)) fun collection => ?_
      refine .bind_all (findsProperties_storeElement collection index value) fun changed => ?_
      exact findsProperties_storeProperty hd hsetter changed

end Value

/-! ## What is created on the way -/

namespace Edit

variable {family : Family} {type : TypeName} {slots : Slots} {d : Descriptor} {seg : Segment}

theorem findsProperties_freshValue (declared : ValueType) :
    FindsProperties (freshValue family.describe declared seg) := by
  cases declared with
  | object name =>
      exact (family.findsProperties_describe name).bind_all fun d => d.findsProperties_instantiate
  | _ => trivial

/-- Creating what a segment of an instance is to hold asks for its setter. -/
theorem findsProperties_freshSegment (hd : family.describe type = .ok d)
    (hsetter : d.hasSetter seg.name = true) :
    FindsProperties (freshSegment family.describe (.object type slots) seg) := by
  obtain ⟨accessor, haccessor⟩ := Descriptor.hasSetter_iff.mp hsetter
  have hdeclared : d.setterType seg.name = .ok accessor.type := by
    unfold Descriptor.setterType
    rw [haccessor]
    rfl
  show FindsProperties (family.describe type >>= fun d => d.setterType seg.name >>= fun declared =>
    freshValue family.describe (if seg.index.isSome then declared.element else declared) seg)
  rw [hd]
  show FindsProperties (d.setterType seg.name >>= fun declared =>
    freshValue family.describe (if seg.index.isSome then declared.element else declared) seg)
  rw [hdeclared]
  exact findsProperties_freshValue _

/-- What is created: an instance of a type that can be described, or an empty
container. -/
theorem freshValue_cases {declared : ValueType} {fresh : Value}
    (h : freshValue family.describe declared seg = .ok fresh) :
    (∃ type slots d, fresh = .object type slots ∧ family.describe type = .ok d) ∨
      fresh = .map [] ∨ fresh = .params [] ∨ fresh = .list [] := by
  cases declared with
  | object name =>
      obtain ⟨d, hd, hfresh⟩ := exists_of_bind_ok h
      unfold Descriptor.instantiate at hfresh
      split at hfresh <;> cases hfresh
      obtain rfl := Family.type_of_describe hd
      exact .inl ⟨_, _, d, rfl, hd⟩
  | map | any => exact .inr (.inl (Except.ok.inj h).symm)
  | params => exact .inr (.inr (.inl (Except.ok.inj h).symm))
  | list _ => exact .inr (.inr (.inr (Except.ok.inj h).symm))
  | _ => cases h

theorem freshSegment_cases {parent fresh : Value}
    (h : freshSegment family.describe parent seg = .ok fresh) :
    (∃ type slots d, fresh = .object type slots ∧ family.describe type = .ok d) ∨
      fresh = .map [] ∨ fresh = .params [] ∨ fresh = .list [] := by
  cases parent with
  | object type slots =>
      obtain ⟨d, -, h⟩ := exists_of_bind_ok h
      obtain ⟨declared, -, h⟩ := exists_of_bind_ok h
      exact freshValue_cases h
  | _ =>
      have hmap : freshValue family.describe .map seg = .ok fresh := h
      exact freshValue_cases hmap

end Edit

/-! ## Writing into empty containers -/

namespace Value

variable {describe : Describe} {value : Value} {seg : Segment} {rest : List Segment}

theorem readSegment_emptyMap : (map []).readSegment describe seg = .ok null := by
  unfold readSegment
  cases seg.index with
  | none => rfl
  | some index => exact ite_self _

theorem findsProperties_storeSegment_map (entries : Entries Value) :
    FindsProperties ((map entries).storeSegment describe seg value) := by
  unfold storeSegment
  split
  · trivial
  · split
    · trivial
    · show FindsProperties (storeElement _ _ _ >>= fun changed => .ok _)
      exact (findsProperties_storeElement _ _ _).bind_all fun _ => trivial

/-- An empty map takes every write: nothing is there, and maps are created. -/
theorem findsProperties_storeSegments_emptyMap :
    FindsProperties ((map []).storeSegments describe value seg rest) := by
  induction rest generalizing seg with
  | nil => exact findsProperties_storeSegment_map []
  | cons next rest ih =>
      unfold storeSegments
      rw [readSegment_emptyMap]
      show FindsProperties (if (null.isNull && value.isNull) = true then .ok (map [])
        else storeSegments describe (map []) value next rest >>= fun changed =>
          (map []).storeSegment describe seg changed)
      split
      · trivial
      · exact ih.bind_all fun changed => findsProperties_storeSegment_map []

/-- Where the first segment cannot be read, for another reason than that it is
missing, nothing is created, and a write of that segment alone decides. -/
theorem findsProperties_storeSegments_of_unreadable {root : Value}
    (hread : ∃ fault, root.readSegment describe seg = .error fault ∧ fault.isMissing = false)
    (hstore : FindsProperties (root.storeSegment describe seg value)) :
    FindsProperties (root.storeSegments describe value seg rest) := by
  cases rest with
  | nil => exact hstore
  | cons next rest =>
      obtain ⟨fault, hread, hmissing⟩ := hread
      unfold storeSegments
      rw [hread]
      exact hmissing

/-- Nothing is found in an empty bag, and it is written without looking. -/
theorem findsProperties_storeSegments_emptyBag :
    FindsProperties ((params []).storeSegments describe value seg rest) := by
  apply findsProperties_storeSegments_of_unreadable
  · have hpresent : ¬(params []).isNull = true := Bool.false_ne_true
    have hmissing (name : String) :
        Bag.get [] name = .error (.binding (.missingParameter name [])) := rfl
    unfold readSegment
    rw [if_neg hpresent]
    cases seg.index with
    | none => exact ⟨_, hmissing seg.name, rfl⟩
    | some index =>
        dsimp only
        split
        · exact ⟨_, hmissing index, rfl⟩
        · exact ⟨_, rfl, rfl⟩
  · unfold storeSegment
    split
    · trivial
    · split <;> trivial

/-- An empty list has no positions. -/
theorem listPosition_zero (index : String) :
    ∃ fault, listPosition index 0 = .error fault ∧ fault.isMissing = false := by
  unfold listPosition
  split
  · exact ⟨_, rfl, rfl⟩
  · rw [if_neg (Nat.not_lt_zero _)]
    exact ⟨_, rfl, rfl⟩

/-- Every index into an empty list is out of bounds. -/
theorem findsProperties_storeSegments_emptyList (hindex : seg.isBareIndex = true) :
    FindsProperties ((list []).storeSegments describe value seg rest) := by
  obtain ⟨hsome, hname⟩ := Bool.and_eq_true_iff.mp hindex
  obtain ⟨index, hsome⟩ := Option.isSome_iff_exists.mp hsome
  apply findsProperties_storeSegments_of_unreadable
  · obtain ⟨fault, hposition, hmissing⟩ := listPosition_zero index
    refine ⟨fault, ?_, hmissing⟩
    unfold readSegment
    rw [hsome]
    dsimp only
    rw [if_pos hname]
    show (listPosition index 0 >>= fun position =>
      .ok (([] : List Value)[position]?.getD null)) = .error fault
    rw [hposition]
    rfl
  · unfold storeSegment
    rw [hsome]
    dsimp only
    rw [if_pos hname]
    exact findsProperties_storeElement _ _ _

end Value

/-! ## Writing in step with the types -/

/-- A write goes on behind a segment whose type is an object type, with what
the rest of it asks for. -/
theorem Descriptor.CanStore.of_cons {describe : Describe} {d : Descriptor} {seg next : Segment}
    {rest : List Segment} (h : d.CanStore describe seg (next :: rest)) :
    d.hasSetter seg.name = true ∧
      ∃ child, d.step describe seg = .ok child ∧ child.CanStore describe next rest := by
  obtain ⟨hwrite, hread⟩ := h
  obtain ⟨hsetter, child, hstep, hrest⟩ := canWrite_cons.mp hwrite
  refine ⟨hsetter, child, hstep, hrest, fun helement => ?_⟩
  rw [List.getLastD_cons] at hread
  obtain ⟨child', hstep', hread⟩ := canRead_cons.mp (hread helement)
  obtain rfl : child = child' := Except.ok.inj (hstep.symm.trans hstep')
  exact hread

namespace Value

variable {family : Family} {value : Value} {type : TypeName} {slots : Slots} {d : Descriptor}
  {seg : Segment} {rest : List Segment}

/-- A write in step with the types: on an instance that is typed along the
segments, a write along segments that can be stored on its type finds every
property, if everything that it creates takes the rest of it. -/
theorem findsProperties_storeSegments (hd : family.describe type = .ok d)
    (hstore : d.CanStore family.describe seg rest)
    (htyped : (object type slots).TypedAlong family.describe (seg :: rest))
    (hcreated : CreatesTyped family.describe value (object type slots) seg rest) :
    FindsProperties ((object type slots).storeSegments family.describe value seg rest) := by
  induction rest generalizing type slots d seg with
  | nil =>
      obtain ⟨hwrite, hread⟩ := hstore
      exact findsProperties_storeSegment hd hwrite hread value
  | cons next rest ih =>
      obtain ⟨hsetter, child, hstep, hrest⟩ := hstore.of_cons
      have hgetter := Descriptor.hasGetter_of_step hstep
      obtain ⟨hsegment, hinner⟩ := htyped
      -- storing the segment back finds it, whatever has become of its value
      have hback : ∀ changed, FindsProperties
          ((object type slots).storeSegment family.describe seg changed) :=
        fun changed => findsProperties_storeSegment hd hsetter (fun _ => hgetter) changed
      unfold storeSegments
      unfold CreatesTyped at hcreated
      refine .bind (findsProperties_readSegment hd hgetter) fun head hhead => ?_
      rw [hhead] at hinner hcreated
      dsimp only at hcreated
      rcases readSegment_typed hd hsegment hstep hhead with rfl | ⟨name, inner, rfl, hchild⟩
      · have habsent : (null : Value).isNull = true := rfl
        rw [if_pos habsent] at hcreated
        rw [habsent, Bool.true_and]
        by_cases hdrop : value.isNull = true
        · rw [if_pos hdrop]
          trivial
        · rw [if_neg hdrop] at hcreated
          rw [if_neg hdrop, if_pos rfl]
          refine .bind (Edit.findsProperties_freshSegment hd hsetter) fun fresh hfresh => ?_
          rw [hfresh] at hcreated
          obtain ⟨htakes, hinner, hcreated⟩ := hcreated
          refine .bind_all ?_ hback
          rcases Edit.freshSegment_cases hfresh with
            ⟨name, inner, child', rfl, hchild'⟩ | rfl | rfl | rfl
          · exact ih hchild' (htakes child' hchild') hinner hcreated
          · exact findsProperties_storeSegments_emptyMap
          · exact findsProperties_storeSegments_emptyBag
          · exact findsProperties_storeSegments_emptyList htakes
      · show FindsProperties (storeSegments family.describe (object name inner) value next rest >>=
          fun changed => (object type slots).storeSegment family.describe seg changed)
        exact (ih hchild hrest hinner hcreated).bind_all hback

end Value

/-! ## Paths -/

/-- If a path can be written on a type, and read as well where its last segment
is an element of a property, then writing a value at the path does not fail
because a property is missing, on every instance along which each property that
is read is absent or of exactly the declared type, as long as whatever the
write creates takes the rest of it and is typed along it in the same way. -/
theorem Descriptor.findsProperties_writePath {family : Family} {type : TypeName} {d : Descriptor}
    {path : String} {slots : Slots} {value : Value} (hd : family.describe type = .ok d)
    (hwrite : d.canWritePath family.describe path = true)
    (hread : ((Path.ofString path).rest.getLastD (Path.ofString path).head).isElement = true →
      d.canReadPath family.describe path = true)
    (htyped : (Value.object type slots).TypedAlong family.describe (Path.ofString path).segments)
    (hcreated : Value.CreatesTyped family.describe value (.object type slots)
      (Path.ofString path).head (Path.ofString path).rest) :
    FindsProperties ((Edit.path family.describe path value).applyTo (.object type slots)).1 := by
  have hstore : FindsProperties ((Value.object type slots).storePath family.describe path value) :=
    Value.findsProperties_storeSegments hd ⟨hwrite, hread⟩ htyped hcreated
  rw [Edit.applyTo_path]
  rcases houtcome : (Value.object type slots).storePath family.describe path value with
    fault | changed <;> rw [houtcome] at hstore
  · exact hstore
  · trivial

/-- The city of a person without an address can be written: the address that
the write creates takes it. -/
theorem findsProperties_writePath_persons :
    (Value.object "Person" []).TypedAlong persons.describe (Path.ofString "address.city").segments ∧
      FindsProperties ((Edit.path persons.describe "address.city" (.string "Oslo")).applyTo
        (.object "Person" [])).1 := by
  have hpath : (Value.object "Person" []).TypedAlong persons.describe
        (Path.ofString "address.city").segments ∧
      (persons.describe "Person").toOption.any
        (fun d => d.canWritePath persons.describe "address.city") = true ∧
      ((Path.ofString "address.city").rest.getLastD
        (Path.ofString "address.city").head).isElement = false ∧
      Value.CreatesTyped persons.describe (.string "Oslo") (.object "Person" [])
        (Path.ofString "address.city").head (Path.ofString "address.city").rest := by
    decide +kernel
  -- with the path as a variable, stating the facts about it does not run them
  generalize "address.city" = path at hpath ⊢
  obtain ⟨htyped, hwrite, hlast, hcreated⟩ := hpath
  refine ⟨htyped, ?_⟩
  obtain ⟨d, hd, hwrite⟩ := exists_ok_of_any hwrite
  refine Descriptor.findsProperties_writePath hd hwrite (fun helement => ?_) htyped hcreated
  rw [hlast] at helement
  cases helement

/-! ### Writes that the types do not foresee -/

/-- Persons whose address is written as another type than it is read, whose
tags are only written, and whose new blogs hold a number for an author. -/
def strangers : Family where
  shapes := [
    ("Person", {
      constructor := some []
      fields := [.ofSlot "Person" "blog" (.object "Blog") .any]
      getters := [
        { name := "getAddress", type := .object "Address", call := .slot "Person" "address" }]
      setters := [
        { name := "setAddress", type := .object "Base", call := .slot "Person" "address" .any },
        { name := "setTags", type := .list .string, call := .slot "Person" "tags" .any }] }),
    ("Address", {
      constructor := some []
      fields := [.ofSlot "Address" "city" .string .string] }),
    ("Base", { constructor := some [] }),
    ("Blog", {
      constructor := some [("author", .int 3)]
      fields := [.ofSlot "Blog" "author" (.object "Author") .any] }),
    ("Author", { fields := [.ofSlot "Author" "name" .string .string] })]

/-- Three paths that can be written on a type and are missing on a person who
holds nothing: a value of the type that the setter declares has no city, the
tags have no getter, and the author of a new blog has no name. -/
theorem missing_writePath_strangers : ∃ d, strangers.describe "Person" = .ok d ∧
    ∀ path ∈ ["address.city", "tags[0]", "blog.author.name"],
      d.canWritePath strangers.describe path = true ∧
        (Value.object "Person" []).TypedAlong strangers.describe (Path.ofString path).segments ∧
        ¬FindsProperties
          ((Edit.path strangers.describe path (.string "Oslo")).applyTo (.object "Person" [])).1 := by
  obtain ⟨d, hd, hwrite⟩ := exists_ok_of_any
    (show (strangers.describe "Person").toOption.any (fun d =>
        ["address.city", "tags[0]", "blog.author.name"].all
          fun path => d.canWritePath strangers.describe path) = true by
      decide +kernel)
  have hrun : ∀ path ∈ ["address.city", "tags[0]", "blog.author.name"],
      (Value.object "Person" []).TypedAlong strangers.describe (Path.ofString path).segments ∧
        ¬FindsProperties
          ((Edit.path strangers.describe path (.string "Oslo")).applyTo (.object "Person" [])).1 := by
    decide +kernel
  rw [List.all_eq_true] at hwrite
  exact ⟨d, hd, fun path hmem => ⟨hwrite path hmem, hrun path hmem⟩⟩

end SqlMapper
