import SqlMapper.Proofs.Property.Storing

/-!
# Paths as keys

A segment is one key, of a property or of an element, or two, of a property
and then of an element of it. Read as a list of keys a path is walked by one
rule, and of a write at one key it can be said what another key reads
afterwards.

## Main definitions

* `Key`, `Path.keys` — one key, and the keys of a path.
* `Value.readKeys`, `Value.storeKey` — reading and writing by keys.
* `Key.Different` — keys that never reach the same place.
* `FaithfulAccessors` — the accessors of objects keep what they store.
* `Agree` — readings that are the same.

## Main results

* `Value.readPath_eq_readKeys` — reading a path is reading its keys.
* `Value.readPath_append` — reading a path that goes on is reading on from what
  its beginning reads.
* `Value.readKey_store`, `Value.readKey_store_other` — a key after a write at
  that or at a different key.
-/

namespace SqlMapper

/-! ## Keys -/

/-- The key of a property or of an element. -/
inductive Key where
  | name (name : String)
  | index (index : String)
  deriving DecidableEq, Repr

namespace Key

/-- The key as maps and parameter bags take it. -/
def text : Key → String
  | name n => n
  | index i => i

/-- The key as lists take it: a position, whatever the length of the list. -/
def position? : Key → Option Nat
  | name _ => none
  | index i => Text.readBelow indexBound (Text.trimChars i.toList)

/-- The two keys never reach the same place. -/
def Different (a b : Key) : Prop :=
  a.text ≠ b.text ∧ ∀ position, a.position? = some position → b.position? ≠ some position

/-- Properties are different if their names are. -/
theorem different_name {a b : String} (h : a ≠ b) : (name a).Different (name b) :=
  ⟨h, fun _ hposition => by cases hposition⟩

end Key

/-- The keys of a segment. -/
def Segment.keys (seg : Segment) : List Key :=
  match seg.index with
  | none => [.name seg.name]
  | some index => if seg.name.isEmpty then [.index index] else [.name seg.name, .index index]

/-- The keys of a path. -/
def Path.keys (path : String) : List Key := (ofString path).segments.flatMap Segment.keys

/-- The keys of two paths joined by a dot are the keys of the one and then those
of the other. -/
theorem Path.keys_append (p q : String) : keys (p ++ "." ++ q) = keys p ++ keys q := by
  unfold keys
  rw [segments_append, List.flatMap_append]

namespace Value

variable (describe : Describe)

/-! ## Reading -/

/-- Reads one key. -/
def readKey (target : Value) : Key → Except Fault Value
  | .name name => target.readProperty describe name
  | .index index => target.readIndex index

/-- Reads one key after the other. -/
def readKeys (root : Value) (keys : List Key) : Except Fault Value :=
  keys.foldlM (readKey describe) root

variable {describe}

theorem readKeys_cons (root : Value) (a : Key) (as : List Key) :
    root.readKeys describe (a :: as) =
      root.readKey describe a >>= fun child => child.readKeys describe as :=
  List.foldlM_cons

theorem readKeys_append (root : Value) (as bs : List Key) :
    root.readKeys describe (as ++ bs) =
      root.readKeys describe as >>= fun child => child.readKeys describe bs :=
  List.foldlM_append

theorem readKeys_cons_of_ok {root child : Value} {a : Key} {as : List Key}
    (h : root.readKey describe a = .ok child) :
    root.readKeys describe (a :: as) = child.readKeys describe as := by
  rw [readKeys_cons, h]
  rfl

theorem readKeys_singleton (root : Value) (a : Key) :
    root.readKeys describe [a] = root.readKey describe a := by
  rw [readKeys_cons]
  exact bind_pure _

/-- Nothing is read from `null`. -/
theorem readKeys_null (as : List Key) : null.readKeys describe as = .ok null := by
  induction as with
  | nil => rfl
  | cons a as ih =>
      have ha : null.readKey describe a = .ok null := by cases a <;> rfl
      rw [readKeys_cons_of_ok ha, ih]

theorem readSegment_eq_readKeys (target : Value) (seg : Segment) :
    target.readSegment describe seg = target.readKeys describe seg.keys := by
  unfold readSegment Segment.keys
  by_cases hnull : target.isNull = true
  · rw [if_pos hnull, isNull_iff.mp hnull, readKeys_null]
  · rw [if_neg hnull]
    rcases seg.index with _ | index
    · exact (readKeys_singleton target (.name seg.name)).symm
    · dsimp only
      split
      · exact (readKeys_singleton target (.index index)).symm
      · rw [readKeys_cons]
        exact bind_congr fun collection => (readKeys_singleton collection (.index index)).symm

/-- Reading a path is reading its keys. -/
theorem readPath_eq_readKeys (root : Value) (path : String) :
    root.readPath describe path = root.readKeys describe (Path.keys path) := by
  unfold readPath readSegments Path.keys
  generalize (Path.ofString path).segments = segs
  induction segs generalizing root with
  | nil => rfl
  | cons seg segs ih =>
      rw [List.foldlM_cons, List.flatMap_cons, readKeys_append, ← readSegment_eq_readKeys]
      exact bind_congr ih

/-- Reading a path that goes on after a dot is reading its beginning, and then
the rest on what that reads. A fault of the beginning stays the fault of the
whole path, and once the beginning reads `null`, so does the whole path,
whatever the rest of it is. -/
theorem readPath_append (root : Value) (p q : String) :
    (root.readPath describe (p ++ "." ++ q) =
      match root.readPath describe p with
      | .error fault => .error fault
      | .ok null => .ok null
      | .ok child => child.readPath describe q) ∧
    (root.readPath describe p = .ok null →
      root.readPath describe (p ++ "." ++ q) = .ok null) := by
  have hnull : null.readPath describe q = .ok null := by
    rw [readPath_eq_readKeys, readKeys_null]
  have hjoined : root.readPath describe (p ++ "." ++ q) =
      root.readPath describe p >>= fun child => child.readPath describe q := by
    rw [readPath_eq_readKeys, Path.keys_append, readKeys_append, ← readPath_eq_readKeys]
    exact bind_congr fun child => (readPath_eq_readKeys child q).symm
  rw [hjoined]
  constructor
  · rcases root.readPath describe p with fault | child
    · rfl
    · cases child with
      | null => exact hnull
      | _ => rfl
  · intro h
    rw [h]
    exact hnull

/-- A person in a list has no address, and so no city in it. -/
theorem readPath_append_missing_address :
    let root := map [("people", list [map [("address", null)]])]
    let describe := Family.describe {}
    root.readPath describe "people[0].address" = .ok null ∧
      root.readPath describe "people[0].address.city.zip[3]" = .ok null := by
  intro root describe
  have h : root.readPath describe "people[0].address" = .ok null := by rfl
  exact ⟨h, (readPath_append root "people[0].address" "city.zip[3]").2 h⟩

/-- What something is read from is absent or a container. -/
theorem isScalar_eq_false_of_readKey {target value : Value} {a : Key}
    (h : target.readKey describe a = .ok value) (hnull : target.isNull = false) :
    target.isScalar = false := by
  cases target with
  | null => cases hnull
  | list _ | map _ | params _ | object _ _ => rfl
  | _ => cases a <;> cases h

/-! ## Writing -/

variable (describe) in
/-- The value with one key written. -/
def storeKey (root : Value) (a : Key) (value : Value) : Except Fault Value :=
  match a with
  | .name name => root.storeProperty describe name value
  | .index index => root.storeElement index value

end Value

/-! ## Readings that agree -/

/-- The two readings are the same; where both miss an argument of a bag, the
bags may hold different arguments. -/
def Agree (a b : Except Fault Value) : Prop :=
  a = b ∨ ∃ name held held', a = .error (.binding (.missingParameter name held)) ∧
    b = .error (.binding (.missingParameter name held'))

namespace Agree

variable {a b c : Except Fault Value}

theorem refl (a : Except Fault Value) : Agree a a := .inl rfl

theorem symm (h : Agree a b) : Agree b a := by
  rcases h with rfl | ⟨name, held, held', rfl, rfl⟩
  · exact refl _
  · exact .inr ⟨name, held', held, rfl, rfl⟩

theorem trans (hab : Agree a b) (hbc : Agree b c) : Agree a c := by
  rcases hab with rfl | ⟨name, held, held', rfl, rfl⟩
  · exact hbc
  · rcases hbc with rfl | ⟨_, _, held'', heq, rfl⟩
    · exact .inr ⟨name, held, held', rfl, rfl⟩
    · cases heq
      exact .inr ⟨name, held, held'', rfl, rfl⟩

/-- Readings that agree go on to agree. -/
theorem bind (h : Agree a b) (f : Value → Except Fault Value) : Agree (a >>= f) (b >>= f) := by
  rcases h with rfl | ⟨name, held, held', rfl, rfl⟩
  · exact refl _
  · exact .inr ⟨name, held, held', rfl, rfl⟩

/-- A value that is read is read by both. -/
theorem eq_ok {value : Value} (h : Agree a (.ok value)) : a = .ok value := by
  rcases h with h | ⟨_, _, _, _, h⟩
  · exact h
  · cases h

end Agree

/-! ## Faithful accessors -/

/-- The accessors of objects keep what they store: a value of the given kind
that a setter accepts is what the getter of that property then gives, and the
getters of other properties give what they gave. Composites are of the kind,
as no accessor converts them. -/
structure FaithfulAccessors (describe : Describe) (kept : Value → Prop) : Prop where
  composite : ∀ {value}, value.isScalar = false → kept value
  same : ∀ {type slots property value changed}, kept value →
    (Value.object type slots).storeProperty describe property value = .ok changed →
    changed.readProperty describe property = .ok value
  other : ∀ {type slots property other value changed}, property ≠ other →
    (Value.object type slots).storeProperty describe property value = .ok changed →
    changed.readProperty describe other = (Value.object type slots).readProperty describe other

namespace Value

variable {describe : Describe} {kept : Value → Prop} {root changed value : Value} {a b : Key}

/-- A position in a list is the one that the key means, within the list. -/
theorem position?_of_listPosition {index : String} {length position : Nat}
    (h : listPosition index length = .ok position) :
    (Key.index index).position? = some position ∧ position < length := by
  unfold listPosition at h
  rcases hread : Text.readBelow indexBound (Text.trimChars index.toList) with _ | i <;>
    rw [hread] at h
  · cases h
  · dsimp only at h
    split at h <;> cases h
    exact ⟨hread, by assumption⟩

private theorem readIndex_list (items : List Value) (index : String) :
    (list items).readIndex index =
      listPosition index items.length >>= fun i => .ok ((items[i]?).getD null) :=
  rfl

/-- A list reads at a position what was written there. -/
private theorem readIndex_set_same {items : List Value} {index : String} {position : Nat}
    (hposition : listPosition index items.length = .ok position) :
    (list (items.set position value)).readIndex index = .ok value := by
  have hlt := (position?_of_listPosition hposition).2
  rw [readIndex_list, List.length_set, hposition]
  show Except.ok (((items.set position value)[position]?).getD null) = _
  rw [List.getElem?_set_self hlt]
  rfl

/-- A list reads at the other positions what it read. -/
theorem readIndex_set_other {items : List Value} {index other : String} {position : Nat}
    (hdifferent : (Key.index index).position? ≠ (Key.index other).position?)
    (hposition : listPosition index items.length = .ok position) :
    (list (items.set position value)).readIndex other = (list items).readIndex other := by
  rw [readIndex_list, readIndex_list, List.length_set]
  rcases hother : listPosition other items.length with fault | position'
  · rfl
  · have hne : position ≠ position' := by
      intro heq
      subst heq
      exact hdifferent ((position?_of_listPosition hposition).1.trans
        (position?_of_listPosition hother).1.symm)
    show Except.ok (((items.set position value)[position']?).getD null) = _
    rw [List.getElem?_set_ne hne]
    rfl

/-- What was written to is a container. -/
theorem isScalar_eq_false_of_storeKey (h : root.storeKey describe a value = .ok changed) :
    changed.isScalar = false := by
  cases root with
  | object type slots =>
      cases a with
      | name property =>
          rcases exists_of_bind_ok h with ⟨setter, -, h⟩
          rcases exists_of_bind_ok h with ⟨slots, -, h⟩
          cases h
          rfl
      | index index => cases h
  | list items =>
      cases a with
      | name property => cases h
      | index index =>
          rcases exists_of_bind_ok h with ⟨position, -, h⟩
          cases h
          rfl
  | map entries | params entries => cases a <;> (cases h; rfl)
  | _ => cases a <;> cases h

/-- A key reads what was written there, if a property of an object does. -/
theorem readKey_store
    (hobject : ∀ type slots property, root = .object type slots → a = .name property →
      changed.readProperty describe property = .ok value)
    (h : root.storeKey describe a value = .ok changed) :
    changed.readKey describe a = .ok value := by
  cases root with
  | object type slots =>
      cases a with
      | name property => exact hobject type slots property rfl rfl
      | index index => cases h
  | list items =>
      cases a with
      | name property => cases h
      | index index =>
          rcases exists_of_bind_ok h with ⟨position, hposition, h⟩
          cases h
          exact readIndex_set_same hposition
  | map entries =>
      have hfind : (Entries.find? a.text (Entries.insert a.text value entries)).getD null =
          value := by
        rw [Entries.find?_insert, if_pos rfl]
        rfl
      cases a <;> (cases h; exact congrArg Except.ok hfind)
  | params entries =>
      have hget : Bag.get (Entries.put a.text value entries) a.text = .ok value := by
        unfold Bag.get
        rw [Entries.find?_put, if_pos rfl]
      cases a <;> (cases h; exact hget)
  | _ => cases a <;> cases h

/-- With faithful accessors a key reads what was written there. -/
theorem readKey_store_same (hfaithful : FaithfulAccessors describe kept) (hkept : kept value)
    (h : root.storeKey describe a value = .ok changed) :
    changed.readKey describe a = .ok value := by
  refine readKey_store ?_ h
  rintro type slots property rfl rfl
  exact hfaithful.same hkept h

/-- A key reads what it read before a write at a different key. -/
theorem readKey_store_other (hfaithful : FaithfulAccessors describe kept)
    (hdifferent : a.Different b) (h : root.storeKey describe a value = .ok changed) :
    Agree (changed.readKey describe b) (root.readKey describe b) := by
  cases root with
  | object type slots =>
      cases a with
      | name property =>
          rcases exists_of_bind_ok h with ⟨setter, hsetter, h'⟩
          rcases exists_of_bind_ok h' with ⟨slots', hslots, hchanged⟩
          cases b with
          | name other => exact .inl (hfaithful.other hdifferent.1 h)
          | index index =>
              cases hchanged
              exact .refl _
      | index index => cases h
  | list items =>
      cases a with
      | name property => cases h
      | index index =>
          rcases exists_of_bind_ok h with ⟨position, hposition, h⟩
          cases h
          cases b with
          | name other => exact .refl _
          | index other =>
              have hplace := (position?_of_listPosition hposition).1
              refine .inl (readIndex_set_other (fun hsame => ?_) hposition)
              exact hdifferent.2 position hplace (hsame.symm.trans hplace)
  | map entries =>
      have hfind : (Entries.find? b.text (Entries.insert a.text value entries)).getD null =
          (Entries.find? b.text entries).getD null := by
        rw [Entries.find?_insert, if_neg hdifferent.1]
      refine .inl ?_
      cases a <;> (cases h; cases b <;> exact congrArg Except.ok hfind)
  | params entries =>
      have hget : Agree (Bag.get (Entries.put a.text value entries) b.text)
          (Bag.get entries b.text) := by
        unfold Bag.get
        rw [Entries.find?_put, if_neg hdifferent.1]
        rcases Entries.find? b.text entries with _ | held
        · exact .inr ⟨b.text, _, _, rfl, rfl⟩
        · exact .refl _
      cases a <;> (cases h; cases b <;> exact hget)
  | _ => cases a <;> cases h

end Value

end SqlMapper
