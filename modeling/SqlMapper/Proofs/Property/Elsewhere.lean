import SqlMapper.Proofs.Property.Records
import SqlMapper.Proofs.Property.Writes

/-!
# What a write leaves alone

A write along a path changes copies and stores them back as its last step. So
one that fails has changed nothing, and one that succeeds has changed nothing
that another path reads, if that path parts from it at a map or a list.

Which paths part is a question of places and not of spelling. A map is asked by
text, and it does not matter whether the text is a name or an index. A list is
asked by position, and `0` and ` 00` are one position. What is absent becomes an
empty map when a write goes through it, and reads `null` before and after at
every key that the write does not take.

## Main definitions

* `Value.SamePlace`, `Value.OtherPlace` — two keys of one container.
* `Value.Elsewhere` — keys that part from others at a map, at a list or where
  nothing is yet.

## Main results

* `Edit.applyTo_path_fault` — a write that fails leaves no trace.
* `Value.readKeys_storeKey_elsewhere` — what storing at one key leaves alone.
* `Edit.readPath_elsewhere` — a path that parts from the written one reads what
  it read.
-/

namespace SqlMapper

variable {describe : Describe}

/-! ## Writes that fail -/

/-- A write that fails leaves no trace: at whatever step of whatever path it
stops, the value is afterwards what it was before. -/
theorem Edit.applyTo_path_fault {root left value : Value} {path : String} {fault : Fault}
    (h : (Edit.path describe path value).applyTo root = (.error fault, left)) : left = root := by
  rcases applyTo_path_cases h with ⟨hok, -⟩ | ⟨_, -, hleft⟩
  · cases hok
  · exact hleft

/-- Tenants, whose address is fixed, and addresses with a city that can be
changed. -/
def tenants : Family where
  shapes := [
    ("Tenant", {
      fields := [{ Field.ofSlot "Tenant" "address" (.object "Address") .any with writer := none }] }),
    ("Address", { fields := [.ofSlot "Address" "city" .string .string] })]

/-- A list with one tenant. -/
def oneTenant : Value :=
  .map [("tenants", .list [.object "Tenant"
    [("address", .object "Address" [("city", .string "Oslo")])]])]

/-- The property whose setter is reported missing, and the type that should have
it. -/
def missingSetter? : Except Fault Unit → Option (String × String)
  | .error (.noSuchProperty .setter property owner) => some (property, owner)
  | _ => none

private theorem missingSetter?_eq_some_iff {outcome : Except Fault Unit}
    {property owner : String} : missingSetter? outcome = some (property, owner) ↔
      outcome = .error (.noSuchProperty .setter property owner) := by
  constructor
  · intro h
    unfold missingSetter? at h
    split at h
    · obtain ⟨rfl, rfl⟩ := Prod.mk.inj (Option.some.inj h)
      rfl
    · cases h
  · rintro rfl
    rfl

/-- The city of a tenant in a list: it is written in a copy of the address, which
then cannot be stored back. -/
theorem applyTo_path_fault_tenants :
    (Edit.path tenants.describe "tenants[0].address.city" (.string "Bergen")).applyTo oneTenant =
      (.error (.noSuchProperty .setter "address" "Tenant"), oneTenant) := by
  have hmissing :
      missingSetter? ((Edit.path tenants.describe "tenants[0].address.city"
        (.string "Bergen")).applyTo oneTenant).1 = some ("address", "Tenant") := by
    decide +kernel
  rcases hrun : (Edit.path tenants.describe "tenants[0].address.city" (.string "Bergen")).applyTo
    oneTenant with ⟨outcome, left⟩
  rw [hrun] at hmissing
  obtain rfl := missingSetter?_eq_some_iff.mp hmissing
  rw [Edit.applyTo_path_fault hrun]

/-! ## Places -/

/-- The two keys address the same place of a container. -/
def Value.SamePlace : Value → Key → Key → Prop
  | null, a, b | map _, a, b => a.text = b.text
  | list _, a, b => a.position? = b.position?
  | _, _, _ => False

/-- The two keys address different places of a container. -/
def Value.OtherPlace : Value → Key → Key → Prop
  | null, a, b | map _, a, b => a.text ≠ b.text
  | list _, a, b => a.position? ≠ b.position?
  | _, _, _ => False

/-- Read from the same value, the second keys part from the first ones: they
address the same places up to a map, a list or something absent, and from there
on different ones. -/
def Value.Elsewhere (describe : Describe) : Value → List Key → List Key → Prop
  | root, a :: as, b :: bs =>
      root.OtherPlace a b ∨ root.SamePlace a b ∧
        ∃ child, root.readKey describe a = .ok child ∧ child.Elsewhere describe as bs
  | _, _, _ => False

namespace Value

variable {root changed value : Value} {a b : Key}

/-- A position within the list is the one that the key means. -/
theorem listPosition_of_position? {index : String} {length position : Nat}
    (h : (Key.index index).position? = some position) (hlt : position < length) :
    listPosition index length = .ok position := by
  have hread : Text.readBelow indexBound (Text.trimChars index.toList) = some position := h
  unfold listPosition
  rw [hread]
  exact if_pos hlt

/-- The same place reads the same. -/
theorem readKey_of_samePlace (hplace : root.SamePlace a b)
    (hread : root.readKey describe a = .ok value) : root.readKey describe b = .ok value := by
  cases root with
  | null => cases a <;> cases b <;> exact hread
  | map entries =>
      have htext : a.text = b.text := hplace
      have hfind (c : Key) : (map entries).readKey describe c =
          .ok ((Entries.find? c.text entries).getD null) := by
        cases c <;> rfl
      rw [hfind] at hread ⊢
      rw [← htext]
      exact hread
  | list items =>
      have hposition : a.position? = b.position? := hplace
      cases a with
      | name property => cases hread
      | index index =>
          obtain ⟨position, hindex, hitem⟩ := exists_of_bind_ok hread
          obtain ⟨hmeans, hlt⟩ := position?_of_listPosition hindex
          cases b with
          | name property =>
              rw [hmeans] at hposition
              cases hposition
          | index other =>
              have hother : listPosition other items.length = .ok position :=
                listPosition_of_position? (hposition.symm.trans hmeans) hlt
              show (listPosition other items.length >>= fun i =>
                .ok ((items[i]?).getD null)) = .ok value
              rw [hother]
              exact hitem
  | _ => cases hplace

/-- A write into a container leaves its places as they are. -/
theorem SamePlace.storeKey {c : Key} (h : root.SamePlace a b)
    (hstore : root.storeKey describe c value = .ok changed) : changed.SamePlace a b := by
  cases root with
  | null => cases c <;> cases hstore
  | map entries => cases c <;> (cases hstore; exact h)
  | list items =>
      cases c with
      | name property => cases hstore
      | index index =>
          obtain ⟨position, -, hset⟩ := exists_of_bind_ok hstore
          cases hset
          exact h
  | _ => cases h

/-- The same place reads what was stored there. -/
theorem readKey_store_samePlace (hplace : root.SamePlace a b)
    (hstore : root.storeKey describe a value = .ok changed) :
    changed.readKey describe b = .ok value := by
  refine readKey_of_samePlace (hplace.storeKey hstore) (readKey_store ?_ hstore)
  rintro type slots property rfl -
  cases hplace

/-- A different place reads what it read. -/
theorem readKey_store_otherPlace (hplace : root.OtherPlace a b)
    (hstore : root.storeKey describe a value = .ok changed) :
    changed.readKey describe b = root.readKey describe b := by
  cases root with
  | null => cases a <;> cases hstore
  | map entries =>
      have hfind : (Entries.find? b.text (Entries.insert a.text value entries)).getD null =
          (Entries.find? b.text entries).getD null := by
        rw [Entries.find?_insert, if_neg hplace]
      cases a <;> (cases hstore; cases b <;> exact congrArg Except.ok hfind)
  | list items =>
      cases a with
      | name property => cases hstore
      | index index =>
          obtain ⟨position, hposition, hset⟩ := exists_of_bind_ok hstore
          cases hset
          cases b with
          | name property => rfl
          | index other => exact readIndex_set_other hplace hposition
  | _ => cases hplace

/-! ## What is absent -/

/-- An empty map reads `null` along all keys. -/
theorem readKeys_emptyMap (bs : List Key) : (map []).readKeys describe (b :: bs) = .ok null := by
  have hread : (map []).readKey describe b = .ok null := by cases b <;> rfl
  rw [readKeys_cons_of_ok hread, readKeys_null]

/-- Where nothing is yet, keys part as in an empty map. -/
theorem Elsewhere.emptyMap {as bs : List Key} (h : null.Elsewhere describe as bs) :
    (map []).Elsewhere describe as bs ∧
      (map []).readKeys describe bs = null.readKeys describe bs := by
  cases as with
  | nil => cases h
  | cons a as =>
      cases bs with
      | nil => cases h
      | cons b bs =>
          refine ⟨?_, (readKeys_emptyMap bs).trans (readKeys_null (b :: bs)).symm⟩
          rcases h with hother | ⟨hsame, child, hread, hrest⟩
          · exact .inl hother
          · refine .inr ⟨hsame, child, ?_, hrest⟩
            cases a <;> exact hread

/-- What a write creates where keys part is an empty map. -/
theorem Elsewhere.freshSegment {as bs : List Key} {seg : Segment}
    (h : root.Elsewhere describe as bs) : Edit.freshSegment describe root seg = .ok (map []) := by
  cases root with
  | object type slots =>
      cases as with
      | nil => cases h
      | cons a as =>
          cases bs with
          | nil => cases h
          | cons b bs => rcases h with h | ⟨h, -⟩ <;> cases h
  | _ => rfl

/-! ## Readings along keys that part -/

/-- Storing a changed value at a key leaves alone what other keys read, if the
change leaves alone what they read inside. -/
theorem readKeys_storeKey_elsewhere {child' : Value} {as bs : List Key}
    (hstore : root.storeKey describe a child' = .ok changed)
    (helsewhere : root.Elsewhere describe (a :: as) bs)
    (hchild : ∀ child cs, root.readKey describe a = .ok child → child.Elsewhere describe as cs →
      child'.readKeys describe cs = child.readKeys describe cs) :
    changed.readKeys describe bs = root.readKeys describe bs := by
  cases bs with
  | nil => cases helsewhere
  | cons b bs =>
      rcases helsewhere with hother | ⟨hsame, child, hread, hrest⟩
      · rw [readKeys_cons, readKeys_cons, readKey_store_otherPlace hother hstore]
      · rw [readKeys_cons_of_ok (readKey_store_samePlace hsame hstore),
          readKeys_cons_of_ok (readKey_of_samePlace hsame hread)]
        exact hchild child bs hread hrest

/-- The same for a segment, of one key or of two. -/
theorem readKeys_storeSegment_elsewhere {child' : Value} {seg : Segment} {as bs : List Key}
    (hstore : root.storeSegment describe seg child' = .ok changed)
    (helsewhere : root.Elsewhere describe (seg.keys ++ as) bs)
    (hchild : ∀ child cs, root.readSegment describe seg = .ok child →
      child.Elsewhere describe as cs → child'.readKeys describe cs = child.readKeys describe cs) :
    changed.readKeys describe bs = root.readKeys describe bs := by
  rcases storeSegment_cases describe seg with ⟨a, hkeys, hseg⟩ | ⟨name, index, hkeys, hseg⟩ <;>
    rw [hseg] at hstore <;> rw [hkeys] at helsewhere
  · refine readKeys_storeKey_elsewhere hstore helsewhere fun child cs hread => hchild child cs ?_
    rw [readSegment_eq_readKeys, hkeys, readKeys_singleton, hread]
  · obtain ⟨collection, hcollection, hinner⟩ := exists_of_bind_ok hstore
    obtain ⟨collection', helement, hback⟩ := exists_of_bind_ok hinner
    refine readKeys_storeKey_elsewhere hback helsewhere fun held cs hheld hcs => ?_
    obtain rfl : collection = held := Except.ok.inj (hcollection.symm.trans hheld)
    refine readKeys_storeKey_elsewhere helement hcs fun child ds hread => hchild child ds ?_
    rw [readSegment_eq_readKeys, hkeys, readKeys_cons_of_ok hcollection, readKeys_singleton, hread]

/-- A write along segments leaves alone what keys read that part from it. -/
theorem readKeys_storeSegments_elsewhere {seg : Segment} {rest : List Segment} {bs : List Key}
    (hstore : root.storeSegments describe value seg rest = .ok changed)
    (helsewhere : root.Elsewhere describe ((seg :: rest).flatMap Segment.keys) bs) :
    changed.readKeys describe bs = root.readKeys describe bs := by
  induction rest generalizing root changed seg bs with
  | nil =>
      rw [List.flatMap_cons] at helsewhere
      refine readKeys_storeSegment_elsewhere hstore helsewhere fun child cs _ hcs => ?_
      cases cs <;> cases hcs
  | cons next rest ih =>
      rcases storeSegments_cons_ok hstore with
        ⟨-, -, rfl⟩ | ⟨head, child, child', hread, -, hchild, hwrite, hback⟩
      · rfl
      · rw [List.flatMap_cons] at helsewhere
        refine readKeys_storeSegment_elsewhere hback helsewhere fun held cs hheld hcs => ?_
        obtain rfl : head = held := Except.ok.inj (hread.symm.trans hheld)
        by_cases hnull : head.isNull = true
        · -- what is absent is created as an empty map
          rw [if_pos hnull, helsewhere.freshSegment] at hchild
          obtain rfl : map [] = child := Except.ok.inj hchild
          rw [isNull_iff.mp hnull] at hcs ⊢
          rw [ih hwrite hcs.emptyMap.1, hcs.emptyMap.2]
        · rw [if_neg hnull] at hchild
          obtain rfl : head = child := Except.ok.inj hchild
          exact ih hwrite hcs

end Value

/-! ## Paths -/

/-- A write changes nothing elsewhere: a path that parts from the written one at
a map, at a list or where nothing was yet gives the same answer, value or fault,
before and after the write. -/
theorem Edit.readPath_elsewhere {root changed value : Value} {path other : String}
    (h : (Edit.path describe path value).applyTo root = (.ok (), changed))
    (helsewhere : root.Elsewhere describe (Path.keys path) (Path.keys other)) :
    changed.readPath describe other = root.readPath describe other := by
  rcases applyTo_path_cases h with ⟨-, hstore⟩ | ⟨_, hfault, -⟩
  · rw [Value.readPath_eq_readKeys, Value.readPath_eq_readKeys]
    exact Value.readKeys_storeSegments_elsewhere hstore helsewhere
  · cases hfault

/-- A list of two items, the second of which is absent. -/
def twoItems : Value :=
  .map [("items", .list [.map [("kind", .string "a")], .null])]

/-- The two spellings of the first item lead to the same absent tags, and from
there to different ones. -/
private theorem twoItems_elsewhere :
    twoItems.Elsewhere (Family.describe {})
      [.name "items", .index " 0", .name "tags", .name "new"]
      [.name "items", .index "00", .name "tags", .index "old", .name "name"] := by
  have hitems : twoItems.readKey (Family.describe {}) (.name "items") =
      .ok (.list [.map [("kind", .string "a")], .null]) := rfl
  have hplace : (Key.index " 0").position? = (Key.index "00").position? := by decide +kernel
  have hitem : (Value.list [.map [("kind", .string "a")], .null]).readKey (Family.describe {})
      (.index " 0") = .ok (.map [("kind", .string "a")]) := rfl
  have htags : (Value.map [("kind", .string "a")]).readKey (Family.describe {}) (.name "tags") =
      .ok .null := rfl
  have hnew : Value.null.OtherPlace (.name "new") (.index "old") := by
    show "new" ≠ "old"
    decide
  exact .inr ⟨rfl, _, hitems, .inr ⟨hplace, _, hitem, .inr ⟨rfl, _, htags, .inl hnew⟩⟩⟩

/-- Two spellings of one item, and no tags in it: the tag that is written
creates them, and another tag stays absent. -/
theorem readPath_elsewhere_spelled :
    ∃ changed,
      (Edit.path (Family.describe {}) "items[ 0].tags.new" (.bool true)).applyTo twoItems =
          (.ok (), changed) ∧
        twoItems.Elsewhere (Family.describe {}) (Path.keys "items[ 0].tags.new")
          (Path.keys "items[00].tags[old].name") ∧
        changed.readPath (Family.describe {}) "items[00].tags[old].name" = .ok .null := by
  have hpath : Path.keys "items[ 0].tags.new" =
      [.name "items", .index " 0", .name "tags", .name "new"] := by decide +kernel
  have hother : Path.keys "items[00].tags[old].name" =
      [.name "items", .index "00", .name "tags", .index "old", .name "name"] := by decide +kernel
  have hok : ((Edit.path (Family.describe {}) "items[ 0].tags.new" (.bool true)).applyTo
      twoItems).1.toBool = true := by
    decide +kernel
  rcases hrun : (Edit.path (Family.describe {}) "items[ 0].tags.new" (.bool true)).applyTo
    twoItems with ⟨_ | _, changed⟩
  · rw [hrun] at hok
    cases hok
  · refine ⟨changed, rfl, ?_, ?_⟩
    · rw [hpath, hother]
      exact twoItems_elsewhere
    · rw [Edit.readPath_elsewhere hrun (by rw [hpath, hother]; exact twoItems_elsewhere)]
      rfl

end SqlMapper
