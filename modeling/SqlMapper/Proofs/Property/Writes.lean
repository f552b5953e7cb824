import SqlMapper.Proofs.Property.Keys

/-!
# Writes along keys

A write along a path reads its way down, creates what is absent, writes at
the last key and stores the changed values on the way back. This module says
what is read afterwards: along the same keys, what was written; along other
keys, what was read before, if the write does not create anything on the way
to them.

## Main definitions

* `Writes` — what a write along keys can do.
* `Apart` — key lists of which neither begins with the other.
* `Clear` — lists that are apart, and what they share is there.
* `Write`, `WritesAll` — writes, one after the other.
* `lastReading?` — what some keys read by the last write that reaches them.

## Main results

* `writes_of_storePath` — the write at a path is a write along its keys.
* `Writes.readKeys_same` — the written keys read what was written.
* `Writes.readKeys_clear` — other keys read what they read before.
* `Writes.clear`, `Writes.clear_of_apart` — what stays clear and what becomes
  clear by a write.
* `WritesAll.readKeys_last` — after several writes the last one that reaches
  the keys decides.
-/

namespace SqlMapper

variable {describe : Describe}

/-! ## The relation -/

/-- Writing `value` along the keys turns the first value into the second. -/
inductive Writes (describe : Describe) (value : Value) : Value → List Key → Value → Prop where
  /-- The last key is written. -/
  | store {root changed : Value} {a : Key} (hstore : root.storeKey describe a value = .ok changed) :
      Writes describe value root [a] changed
  /-- What a key reads is changed and stored back. -/
  | through {root child child' changed : Value} {a : Key} {as : List Key}
      (hread : root.readKey describe a = .ok child) (hnull : child.isNull = false)
      (hwrite : Writes describe value child as child')
      (hstore : root.storeKey describe a child' = .ok changed) :
      Writes describe value root (a :: as) changed
  /-- A key reads `null`, and something new is changed and stored there. -/
  | create {root fresh child' changed : Value} {a : Key} {as : List Key}
      (hread : root.readKey describe a = .ok .null) (hnull : fresh.isNull = false)
      (hwrite : Writes describe value fresh as child')
      (hstore : root.storeKey describe a child' = .ok changed) :
      Writes describe value root (a :: as) changed
  /-- Nothing is created to hold `null`. -/
  | drop {root : Value} {as : List Key} (hvalue : value = .null)
      (hread : root.readKeys describe as = .ok .null) :
      Writes describe value root as root

/-! ## Paths -/

namespace Value

theorem isNull_eq_false_of_isScalar {v : Value} (h : v.isScalar = false) : v.isNull = false := by
  cases v with
  | null => cases h
  | _ => rfl

theorem isNull_freshValue {type : ValueType} {fresh : Value} {seg : Segment}
    (h : Edit.freshValue describe type seg = .ok fresh) : fresh.isNull = false := by
  cases type with
  | object name =>
      rcases exists_of_bind_ok h with ⟨descriptor, -, h⟩
      unfold Descriptor.instantiate at h
      split at h <;> cases h
      rfl
  | map | any | params | list _ =>
      cases h
      rfl
  | _ => cases h

/-- What is created on the way is not `null`. -/
theorem isNull_freshSegment {parent fresh : Value} {seg : Segment}
    (h : Edit.freshSegment describe parent seg = .ok fresh) : fresh.isNull = false := by
  cases parent with
  | object type slots =>
      rcases exists_of_bind_ok h with ⟨descriptor, -, h⟩
      rcases exists_of_bind_ok h with ⟨declared, -, h⟩
      exact isNull_freshValue h
  | _ =>
      have hmap : Edit.freshValue describe .map seg = .ok fresh := h
      exact isNull_freshValue hmap

variable {root changed value : Value}

/-- Nothing is written into `null`. -/
theorem isNull_eq_false_of_storeKey {a : Key} (h : root.storeKey describe a value = .ok changed) :
    root.isNull = false := by
  cases root with
  | null => cases a <;> cases h
  | _ => rfl

variable (describe) in
/-- A segment of one key is written at that key, one of a name and an index
inside what the name reads. -/
theorem storeSegment_cases (seg : Segment) :
    (∃ a, seg.keys = [a] ∧
      ∀ root value, storeSegment describe root seg value = storeKey describe root a value) ∨
    ∃ name index, seg.keys = [.name name, .index index] ∧
      ∀ root value, storeSegment describe root seg value =
        readKey describe root (.name name) >>= fun collection =>
          storeKey describe collection (.index index) value >>= fun changed =>
            storeKey describe root (.name name) changed := by
  unfold Segment.keys storeSegment
  rcases hindex : seg.index with _ | index
  · exact .inl ⟨.name seg.name, rfl, fun _ _ => rfl⟩
  · by_cases hname : seg.name.isEmpty = true
    · refine .inl ⟨.index index, if_pos hname, ?_⟩
      intro root value
      exact if_pos hname
    · refine .inr ⟨seg.name, index, if_neg hname, ?_⟩
      intro root value
      exact if_neg hname

/-- A write of one segment is a write along its keys. -/
theorem writes_of_storeSegment {seg : Segment}
    (h : root.storeSegment describe seg value = .ok changed) :
    Writes describe value root seg.keys changed := by
  rcases storeSegment_cases describe seg with ⟨a, hkeys, hseg⟩ | ⟨a, b, hkeys, hseg⟩ <;>
    rw [hseg] at h <;> rw [hkeys]
  · exact .store h
  · rcases exists_of_bind_ok h with ⟨collection, hread, h⟩
    rcases exists_of_bind_ok h with ⟨collection', helement, hstore⟩
    exact .through hread (isNull_eq_false_of_storeKey helement) (.store helement) hstore

/-- A segment whose value, read or created, is changed and stored back is
written along its keys and on. -/
theorem writes_of_storeSegment_child {seg : Segment} {head child child' : Value} {as : List Key}
    (hread : root.readSegment describe seg = .ok head) (hchild : head = child ∨ head = null)
    (hnull : child.isNull = false) (hwrite : Writes describe value child as child')
    (hstore : root.storeSegment describe seg child' = .ok changed) :
    Writes describe value root (seg.keys ++ as) changed := by
  have step {root changed : Value} {a : Key} (hread : root.readKey describe a = .ok head)
      (hstore : root.storeKey describe a child' = .ok changed) :
      Writes describe value root (a :: as) changed := by
    rcases hchild with rfl | rfl
    · exact .through hread hnull hwrite hstore
    · exact .create hread hnull hwrite hstore
  rw [readSegment_eq_readKeys] at hread
  rcases storeSegment_cases describe seg with ⟨a, hkeys, hseg⟩ | ⟨a, b, hkeys, hseg⟩ <;>
    rw [hseg] at hstore <;> rw [hkeys] at hread ⊢
  · rw [readKeys_singleton] at hread
    exact step hread hstore
  · rcases exists_of_bind_ok hstore with ⟨collection, hcollection, hstore⟩
    rcases exists_of_bind_ok hstore with ⟨collection', helement, hstore⟩
    rw [readKeys_cons_of_ok hcollection, readKeys_singleton] at hread
    exact .through hcollection (isNull_eq_false_of_storeKey helement) (step hread helement) hstore

theorem writes_of_storeSegments {seg : Segment} {rest : List Segment}
    (h : root.storeSegments describe value seg rest = .ok changed) :
    Writes describe value root ((seg :: rest).flatMap Segment.keys) changed := by
  induction rest generalizing root changed seg with
  | nil =>
      rw [List.flatMap_singleton]
      exact writes_of_storeSegment h
  | cons next rest ih =>
      rw [List.flatMap_cons]
      rcases storeSegments_cons_ok h with
        ⟨hread, rfl, rfl⟩ | ⟨head, child, child', hread, -, hchild, hwrite, hstore⟩
      · refine .drop rfl ?_
        rw [readSegment_eq_readKeys] at hread
        rw [readKeys_append, hread]
        exact readKeys_null _
      · by_cases hnull : head.isNull = true
        · rw [if_pos hnull] at hchild
          exact writes_of_storeSegment_child hread (.inr (isNull_iff.mp hnull))
            (isNull_freshSegment hchild) (ih hwrite) hstore
        · rw [if_neg hnull] at hchild
          obtain rfl : head = child := Except.ok.inj hchild
          exact writes_of_storeSegment_child hread (.inl rfl) (eq_false_of_ne_true hnull)
            (ih hwrite) hstore

/-- The write at a path is a write along its keys. -/
theorem writes_of_storePath {path : String} (h : root.storePath describe path value = .ok changed) :
    Writes describe value root (Path.keys path) changed :=
  writes_of_storeSegments h

end Value

/-! ## What a write leaves -/

/-- A write into a container leaves a container. -/
theorem Writes.isScalar_eq_false {value root changed : Value} {as : List Key}
    (h : Writes describe value root as changed) (hnull : root.isNull = false) :
    changed.isScalar = false := by
  cases h with
  | store hstore | through _ _ _ hstore | create _ _ _ hstore =>
      exact Value.isScalar_eq_false_of_storeKey hstore
  | drop _ hread =>
      cases as with
      | nil =>
          cases hread
          cases hnull
      | cons a as =>
          rcases exists_of_bind_ok hread with ⟨child, hchild, -⟩
          exact Value.isScalar_eq_false_of_readKey hchild hnull

/-! ## Lists that are apart -/

/-- Neither list begins with the other. -/
def Apart : List Key → List Key → Prop
  | a :: as, b :: bs => a.Different b ∨ (a = b ∧ Apart as bs)
  | _, _ => False

/-- The lists are apart, and all that they share reads something. -/
def Clear (describe : Describe) : Value → List Key → List Key → Prop
  | root, a :: as, b :: bs =>
      a.Different b ∨ (a = b ∧ ∃ child, root.readKey describe b = .ok child ∧
        child.isNull = false ∧ Clear describe child as bs)
  | _, _, _ => False

/-- What is clear of a list is clear of what goes on from there. -/
theorem Clear.append {root : Value} {as bs : List Key} (h : Clear describe root as bs)
    (cs : List Key) : Clear describe root as (bs ++ cs) := by
  induction bs generalizing root as with
  | nil => cases as <;> cases h
  | cons b bs ih =>
      cases as with
      | nil => cases h
      | cons a as =>
          rcases h with hdifferent | ⟨hab, child, hread, hnull, hclear⟩
          · exact .inl hdifferent
          · exact .inr ⟨hab, child, hread, hnull, ih hclear⟩

/-- At one key, apart is clear. -/
theorem Apart.clear_singleton {root : Value} {as : List Key} {b : Key} (h : Apart as [b]) :
    Clear describe root as [b] := by
  cases as with
  | nil => cases h
  | cons a as =>
      rcases h with hdifferent | ⟨-, hapart⟩
      · exact .inl hdifferent
      · cases as <;> cases hapart

/-! ## Readings after a write -/

namespace Writes

variable {kept : Value → Prop} {value root changed : Value} {as : List Key}

/-- The written keys read what was written. -/
theorem readKeys_same (hfaithful : FaithfulAccessors describe kept) (hkept : kept value)
    (h : Writes describe value root as changed) :
    changed.readKeys describe as = .ok value := by
  induction h with
  | store hstore =>
      rw [Value.readKeys_singleton]
      exact Value.readKey_store_same hfaithful hkept hstore
  | through _ hnull hwrite hstore ih | create _ hnull hwrite hstore ih =>
      have hchild := hfaithful.composite (hwrite.isScalar_eq_false hnull)
      rw [Value.readKeys_cons_of_ok (Value.readKey_store_same hfaithful hchild hstore)]
      exact ih
  | drop hvalue hread => rw [hread, hvalue]

/-- Keys that are clear read what they read before. -/
theorem readKeys_clear (hfaithful : FaithfulAccessors describe kept)
    (h : Writes describe value root as changed) {bs : List Key}
    (hclear : Clear describe root as bs) :
    Agree (changed.readKeys describe bs) (root.readKeys describe bs) := by
  induction h generalizing bs with
  | drop => exact .refl _
  | store hstore =>
      cases bs with
      | nil => cases hclear
      | cons b bs =>
          rcases hclear with hdifferent | ⟨-, child, -, -, hclear⟩
          · exact (Value.readKey_store_other hfaithful hdifferent hstore).bind _
          · cases bs <;> cases hclear
  | through hread hnull hwrite hstore ih =>
      cases bs with
      | nil => cases hclear
      | cons b bs =>
          rcases hclear with hdifferent | ⟨rfl, child, hread', -, hclear⟩
          · exact (Value.readKey_store_other hfaithful hdifferent hstore).bind _
          · rw [hread] at hread'
            cases hread'
            have hchild := hfaithful.composite (hwrite.isScalar_eq_false hnull)
            rw [Value.readKeys_cons_of_ok (Value.readKey_store_same hfaithful hchild hstore),
              Value.readKeys_cons_of_ok hread]
            exact ih hclear
  | create hread hnull hwrite hstore ih =>
      cases bs with
      | nil => cases hclear
      | cons b bs =>
          rcases hclear with hdifferent | ⟨rfl, child, hread', hnull', -⟩
          · exact (Value.readKey_store_other hfaithful hdifferent hstore).bind _
          · rw [hread] at hread'
            cases hread'
            cases hnull'

/-- One store keeps what is clear of keys that the write is clear of, if what
it stores does. -/
private theorem clear_step (hfaithful : FaithfulAccessors describe kept) {a : Key}
    {child' : Value} (hstore : root.storeKey describe a child' = .ok changed)
    {bs cs : List Key} (has : Clear describe root (a :: as) cs) (hbs : Clear describe root bs cs)
    (hinner : ∀ {child bs cs}, root.readKey describe a = .ok child → child.isNull = false →
      Clear describe child as cs → Clear describe child bs cs →
      child'.isScalar = false ∧ Clear describe child' bs cs) :
    Clear describe changed bs cs := by
  cases cs with
  | nil => cases has
  | cons c cs =>
      cases bs with
      | nil => cases hbs
      | cons b bs =>
          rcases hbs with hbc | ⟨rfl, child, hread, hnull, hbs⟩
          · exact .inl hbc
          · rcases has with hac | ⟨rfl, child, hread', -, has⟩
            · -- the shared key reads what it read
              have hagree := Value.readKey_store_other hfaithful hac hstore
              rw [hread] at hagree
              exact .inr ⟨rfl, child, hagree.eq_ok, hnull, hbs⟩
            · -- the shared key reads what was stored
              rw [hread] at hread'
              cases hread'
              rcases hinner hread hnull has hbs with ⟨hscalar, hclear⟩
              exact .inr ⟨rfl, child',
                Value.readKey_store_same hfaithful (hfaithful.composite hscalar) hstore,
                Value.isNull_eq_false_of_isScalar hscalar, hclear⟩

/-- A write that is clear of some keys leaves clear of them what was. -/
theorem clear (hfaithful : FaithfulAccessors describe kept)
    (h : Writes describe value root as changed) {bs cs : List Key}
    (has : Clear describe root as cs) (hbs : Clear describe root bs cs) :
    Clear describe changed bs cs := by
  induction h generalizing bs cs with
  | store hstore =>
      apply clear_step hfaithful hstore has hbs
      intro child bs cs _ _ has _
      cases cs <;> cases has
  | through hread hnull hwrite hstore ih =>
      apply clear_step hfaithful hstore has hbs
      intro child bs cs hread' _ has hbs
      rw [hread] at hread'
      cases hread'
      exact ⟨hwrite.isScalar_eq_false hnull, ih has hbs⟩
  | create hread hnull hwrite hstore ih =>
      apply clear_step hfaithful hstore has hbs
      intro child bs cs hread' hnull' _ _
      rw [hread] at hread'
      cases hread'
      cases hnull'
  | drop => exact hbs

/-- What is apart from the keys of a write is clear of them afterwards. -/
theorem clear_of_apart (hfaithful : FaithfulAccessors describe kept)
    (h : Writes describe value root as changed) (hvalue : value.isNull = false)
    {bs : List Key} (hapart : Apart bs as) : Clear describe changed bs as := by
  induction h generalizing bs with
  | store => exact hapart.clear_singleton
  | through _ hnull hwrite hstore ih | create _ hnull hwrite hstore ih =>
      cases bs with
      | nil => cases hapart
      | cons b bs =>
          rcases hapart with hdifferent | ⟨rfl, hapart⟩
          · exact .inl hdifferent
          · have hscalar := hwrite.isScalar_eq_false hnull
            exact .inr ⟨rfl, _,
              Value.readKey_store_same hfaithful (hfaithful.composite hscalar) hstore,
              Value.isNull_eq_false_of_isScalar hscalar, ih hapart⟩
  | drop hnull =>
      rw [hnull] at hvalue
      cases hvalue

end Writes

/-! ## Several writes -/

/-- A value and the keys that it is written along. -/
structure Write where
  keys : List Key
  value : Value

/-- The writes, one after the other, turn the first value into the second. -/
def WritesAll (describe : Describe) : Value → List Write → Value → Prop
  | root, [], changed => root = changed
  | root, write :: writes, changed =>
      ∃ mid, Writes describe write.value root write.keys mid ∧ WritesAll describe mid writes changed

/-- The write is made at the keys or above them. -/
abbrev Write.Reaches (write : Write) (keys : List Key) : Prop := write.keys <+: keys

/-- What the keys read by the last write that reaches them. -/
def lastReading? (describe : Describe) (keys : List Key) : List Write → Option (Except Fault Value)
  | [] => none
  | write :: writes =>
      (lastReading? describe keys writes).or
        (if write.Reaches keys then
          some (write.value.readKeys describe (keys.drop write.keys.length))
        else none)

/-- The writes reach the keys with values that the accessors keep, or do not
touch them. -/
structure Separate (describe : Describe) (kept : Value → Prop) (root : Value)
    (writes : List Write) (keys : List Key) : Prop where
  kept : ∀ write ∈ writes, write.Reaches keys → kept write.value
  /-- Only at a single key is `null` sure to be written. -/
  present : ∀ write ∈ writes, write.Reaches keys →
    write.value.isNull = false ∨ ∃ a, write.keys = [a]
  clear : (∀ write ∈ writes, ¬ write.Reaches keys) →
    ∀ write ∈ writes, Clear describe root write.keys keys
  apart : ∀ write ∈ writes, ∀ other ∈ writes, ¬ write.Reaches keys → other.Reaches keys →
    Apart write.keys other.keys

/-- At a single property, writes of single properties are separate. -/
theorem Separate.of_names {kept : Value → Prop} {root : Value} {writes : List Write}
    {property : String} (hnames : ∀ write ∈ writes, ∃ name, write.keys = [.name name])
    (hkept : ∀ write ∈ writes, write.Reaches [.name property] → kept write.value) :
    Separate describe kept root writes [.name property] := by
  have hreaches {write : Write} {name : String} (hname : write.keys = [.name name]) :
      write.Reaches [.name property] ↔ name = property := by
    rw [Write.Reaches, hname, List.cons_prefix_cons, Key.name.injEq]
    exact and_iff_left List.nil_prefix
  have hdifferent {name : String} (hne : name ≠ property) :
      Key.Different (.name name) (.name property) :=
    Key.different_name hne
  constructor
  · exact hkept
  · intro write hmem _
    obtain ⟨name, hname⟩ := hnames write hmem
    exact .inr ⟨_, hname⟩
  · intro hnone write hmem
    obtain ⟨name, hname⟩ := hnames write hmem
    have hne : name ≠ property := by
      intro heq
      exact hnone write hmem ((hreaches hname).mpr heq)
    rw [hname]
    exact .inl (hdifferent hne)
  · intro write hmem other hother hreach hreach'
    obtain ⟨name, hname⟩ := hnames write hmem
    obtain ⟨name', hname'⟩ := hnames other hother
    have hne : name ≠ property := by
      intro heq
      exact hreach ((hreaches hname).mpr heq)
    have hsame : name' = property := (hreaches hname').mp hreach'
    rw [hname, hname', hsame]
    exact .inl (hdifferent hne)

theorem lastReading?_eq_none_iff {keys : List Key} {writes : List Write} :
    lastReading? describe keys writes = none ↔ ∀ write ∈ writes, ¬ write.Reaches keys := by
  induction writes with
  | nil => simp [lastReading?]
  | cons write writes ih =>
      unfold lastReading?
      rw [Option.or_eq_none_iff, ih, List.forall_mem_cons, and_comm]
      simp

namespace Separate

variable {kept : Value → Prop} {root mid : Value} {write : Write} {writes : List Write}
  {keys : List Key}

/-- The writes after the first one are separate from what it leaves, if they
are clear there when none of them reaches the keys. -/
private theorem tail (h : Separate describe kept root (write :: writes) keys)
    (hclear : (∀ w ∈ writes, ¬ w.Reaches keys) → ∀ w ∈ writes, Clear describe mid w.keys keys) :
    Separate describe kept mid writes keys := {
  kept := fun w hw => h.kept w (List.mem_cons_of_mem _ hw)
  present := fun w hw => h.present w (List.mem_cons_of_mem _ hw)
  clear := hclear
  apart := fun w hw other hother =>
    h.apart w (List.mem_cons_of_mem _ hw) other (List.mem_cons_of_mem _ hother) }

/-- After a write that reaches the keys they read inside the written value, and
the writes that do not reach them leave that alone. -/
private theorem after_reaching (hfaithful : FaithfulAccessors describe kept)
    (h : Separate describe kept root (write :: writes) keys)
    (hwrite : Writes describe write.value root write.keys mid) (hreach : write.Reaches keys) :
    Separate describe kept mid writes keys ∧ mid.readKeys describe keys =
      write.value.readKeys describe (keys.drop write.keys.length) := by
  have hkept := h.kept write List.mem_cons_self hreach
  have hpresent := h.present write List.mem_cons_self hreach
  have hclear {w : Write} (hw : w ∈ writes) (hnone : ¬ w.Reaches keys) :
      Clear describe mid w.keys write.keys := by
    have hapart := h.apart w (List.mem_cons_of_mem _ hw) write List.mem_cons_self hnone hreach
    rcases hpresent with hnull | ⟨a, hkey⟩
    · exact hwrite.clear_of_apart hfaithful hnull hapart
    · rw [hkey] at hapart ⊢
      exact hapart.clear_singleton
  obtain ⟨rest, rfl⟩ := hreach
  constructor
  · apply h.tail
    intro hnone w hw
    exact (hclear hw (hnone w hw)).append rest
  · rw [Value.readKeys_append, hwrite.readKeys_same hfaithful hkept, List.drop_left]
    rfl

/-- If no write reaches the keys, the first one leaves them and the others
alone. -/
private theorem after_clear (hfaithful : FaithfulAccessors describe kept)
    (h : Separate describe kept root (write :: writes) keys)
    (hwrite : Writes describe write.value root write.keys mid)
    (hnone : ∀ w ∈ write :: writes, ¬ w.Reaches keys) :
    Separate describe kept mid writes keys ∧
      Agree (mid.readKeys describe keys) (root.readKeys describe keys) := by
  have hclear := h.clear hnone
  have hfirst := hclear write List.mem_cons_self
  constructor
  · apply h.tail
    intro _ w hw
    exact hwrite.clear hfaithful hfirst (hclear w (List.mem_cons_of_mem _ hw))
  · exact hwrite.readKeys_clear hfaithful hfirst

end Separate

/-- After the writes, the keys read what the last one that reaches them makes
them read, and without such a write what they read before. -/
theorem WritesAll.readKeys_last {kept : Value → Prop} {root changed : Value}
    {writes : List Write} {keys : List Key} (hfaithful : FaithfulAccessors describe kept)
    (h : WritesAll describe root writes changed)
    (hseparate : Separate describe kept root writes keys) :
    Agree (changed.readKeys describe keys)
      ((lastReading? describe keys writes).getD (root.readKeys describe keys)) := by
  induction writes generalizing root with
  | nil =>
      cases h
      exact .refl _
  | cons write writes ih =>
      obtain ⟨mid, hwrite, hrest⟩ := h
      unfold lastReading?
      by_cases hreach : write.Reaches keys
      · obtain ⟨htail, hmid⟩ := hseparate.after_reaching hfaithful hwrite hreach
        have hagree := ih hrest htail
        rw [if_pos hreach, ← hmid, Option.getD_or]
        exact hagree
      · rw [if_neg hreach, Option.or_none]
        rcases hlast : lastReading? describe keys writes with _ | reading
        · -- no write reaches the keys
          have hnone : ∀ w ∈ write :: writes, ¬ w.Reaches keys :=
            List.forall_mem_cons.mpr ⟨hreach, lastReading?_eq_none_iff.mp hlast⟩
          obtain ⟨htail, hmid⟩ := hseparate.after_clear hfaithful hwrite hnone
          have hagree := ih hrest htail
          rw [hlast] at hagree
          exact hagree.trans hmid
        · -- a later write decides, whatever this one did
          have htail : Separate describe kept mid writes keys := by
            apply hseparate.tail
            intro hnone
            rw [lastReading?_eq_none_iff.mpr hnone] at hlast
            cases hlast
          have hagree := ih hrest htail
          rw [hlast] at hagree
          exact hagree

end SqlMapper
