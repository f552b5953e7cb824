import Mathlib.Data.List.Nodup
import SqlMapper.Proofs.Catalogue

/-!
# What a catalogue keeps of what it is offered

Entries are offered to a new catalogue under ids of any form, with or without a
dot. Ids and short ids share one set of keys: a key belongs to every accepted entry
that has it as its id or as its short id. It finds the entry if it belongs to that
entry alone, and is ambiguous if it belongs to several.

An entry is therefore refused exactly if its id belongs to an accepted one, and this
need not be an entry of the same id: behind `a.find` the id `find` is refused. What
was accepted stays under its id as long as no other accepted entry has that id as its
short id.

## Main definitions

* `Catalogue.offerAll`, `Catalogue.accepted` — the catalogue after some offers, and
  what it accepted of them.
* `Catalogue.meaning` — what a key stands for among some entries.
* `Catalogue.Reflects` — a catalogue says of every key what it stands for.
* `Catalogue.KeepsAccepted` — what is kept of the accepted entries.

## Main results

* `Catalogue.Reflects.insert`, `Catalogue.Reflects.offerAll` — one more entry, and
  any offers.
* `Catalogue.keepsAccepted_offerAll` — a catalogue keeps what it accepted.
-/

namespace SqlMapper.Catalogue

variable {α : Type} {c c' : Catalogue α} {collection id key : String} {value : α}
  {entries offers : Entries α}

/-! ## Offers -/

/-- The catalogue after the entries were offered one after the other. A refused entry
changes nothing. -/
def offerAll (c : Catalogue α) : Entries α → Catalogue α
  | [] => c
  | (id, value) :: offers =>
      match c.insert id value with
      | .ok c' => c'.offerAll offers
      | .error _ => c.offerAll offers

/-- Those of the offered entries that are accepted, oldest first. -/
def accepted (c : Catalogue α) : Entries α → Entries α
  | [] => []
  | (id, value) :: offers =>
      match c.insert id value with
      | .ok c' => (id, value) :: c'.accepted offers
      | .error _ => c.accepted offers

theorem name_offerAll : (c.offerAll offers).name = c.name := by
  induction offers generalizing c with
  | nil => rfl
  | cons offer offers ih =>
      obtain ⟨id, value⟩ := offer
      rw [offerAll]
      rcases hinsert : c.insert id value with _ | c'
      · exact ih
      · exact ih.trans (name_insert hinsert)

/-- An insert can only fail because its id stands for something already. -/
theorem insert_eq_error_iff {fault : Fault} : c.insert id value = .error fault ↔
    c.contains id = true ∧ fault = .duplicateId c.name id := by
  constructor
  · intro h
    by_cases hcontains : c.contains id = true
    · rw [insert_of_contains hcontains] at h
      exact ⟨hcontains, (Except.error.inj h).symm⟩
    · obtain ⟨c', hinsert⟩ := exists_insert_of_not_contains value (Bool.not_eq_true _ ▸ hcontains)
      rw [hinsert] at h
      cases h
  · rintro ⟨hcontains, rfl⟩
    exact insert_of_contains hcontains

/-! ## What a key stands for -/

/-- The key is the id, or its short id. -/
def BelongsTo (key id : String) : Prop := id = key ∨ shortId? id = some key

instance (key id : String) : Decidable (BelongsTo key id) :=
  inferInstanceAs (Decidable (_ ∨ _))

/-- The entries that the key belongs to. -/
def owners (key : String) (entries : Entries α) : Entries α :=
  entries.filter fun entry => BelongsTo key entry.1

/-- What the key stands for among the entries: the only one that it belongs to. -/
def meaning (collection key : String) (entries : Entries α) : Except Fault α :=
  match owners key entries with
  | [] => .error (.unknownId collection key)
  | [(_, value)] => .ok value
  | _ => .error (.ambiguousId collection key)

theorem owners_concat : owners key (entries ++ [(id, value)]) =
    if BelongsTo key id then owners key entries ++ [(id, value)] else owners key entries := by
  unfold owners
  rw [List.filter_append]
  by_cases hbelongs : BelongsTo key id <;> simp [hbelongs]

theorem owners_eq_nil_iff :
    owners key entries = [] ↔ ∀ other ∈ entries.keys, ¬ BelongsTo key other := by
  simp [owners, Entries.keys, List.filter_eq_nil_iff]

theorem meaning_eq_unknown_iff :
    meaning collection key entries = .error (.unknownId collection key) ↔
      owners key entries = [] := by
  unfold meaning
  rcases owners key entries with _ | ⟨first, _ | ⟨second, more⟩⟩ <;> simp

/-- A key that belongs to one more entry finds it, or is ambiguous if it stood for
something before. -/
theorem meaning_concat_of_belongsTo (h : BelongsTo key id) :
    meaning collection key (entries ++ [(id, value)]) =
      if owners key entries = [] then .ok value else .error (.ambiguousId collection key) := by
  unfold meaning
  rw [owners_concat, if_pos h]
  rcases owners key entries with _ | ⟨first, _ | ⟨second, more⟩⟩ <;> simp

theorem meaning_concat_of_not_belongsTo (h : ¬ BelongsTo key id) :
    meaning collection key (entries ++ [(id, value)]) = meaning collection key entries := by
  unfold meaning
  rw [owners_concat, if_neg h]

theorem mem_owners_self (hmem : (id, value) ∈ entries) : (id, value) ∈ owners id entries :=
  List.mem_filter.mpr ⟨hmem, decide_eq_true (.inl rfl)⟩

/-- An id finds nothing but its own entry. -/
theorem eq_of_meaning {found : α} (hmem : (id, value) ∈ entries)
    (h : meaning collection id entries = .ok found) : value = found := by
  have howner := mem_owners_self hmem
  unfold meaning at h
  split at h
  · cases h
  · next other owner howners =>
      rw [howners, List.mem_singleton] at howner
      obtain rfl := Except.ok.inj h
      exact (Prod.mk.inj howner).2
  · cases h

/-- An id finds its entry if it is no short id of the others. -/
theorem meaning_of_mem (hdistinct : entries.keys.Nodup) (hmem : (id, value) ∈ entries)
    (hapart : ∀ other ∈ entries.keys, shortId? other ≠ some id) :
    meaning collection id entries = .ok value := by
  have hself : ∀ entry ∈ owners id entries, entry = (id, value) := by
    rintro ⟨other, found⟩ howner
    obtain ⟨hother, hbelongs⟩ := List.mem_filter.mp howner
    rcases of_decide_eq_true hbelongs with rfl | hshort
    · have hfound := Entries.find?_of_mem hdistinct hother
      rw [Entries.find?_of_mem hdistinct hmem] at hfound
      rw [Option.some.inj hfound]
    · exact absurd hshort (hapart other (List.mem_map_of_mem hother))
  have hnodup : (owners id entries).Nodup := (List.Nodup.of_map Prod.fst hdistinct).filter _
  have howners : owners id entries = [(id, value)] :=
    List.perm_singleton.mp ((List.perm_ext_iff_of_nodup hnodup (List.nodup_singleton _)).mpr
      fun entry => ⟨fun h => List.mem_singleton.mpr (hself entry h), fun h =>
        List.mem_singleton.mp h ▸ mem_owners_self hmem⟩)
  unfold meaning
  rw [howners]

/-! ## Catalogues that say what keys stand for -/

/-- The catalogue lists the ids of the entries, which are distinct, and every key
finds what it stands for among them. -/
structure Reflects (c : Catalogue α) (entries : Entries α) : Prop where
  ids : c.ids = entries.keys
  distinct : entries.keys.Nodup
  get : ∀ key, c.get key = meaning c.name key entries

namespace Reflects

theorem empty (collection : String) : ({ name := collection } : Catalogue α).Reflects [] where
  ids := rfl
  distinct := List.nodup_nil
  get _ := rfl

/-- A key stands for something if it belongs to some entry. -/
theorem contains_iff (h : c.Reflects entries) :
    c.contains key = true ↔ ∃ other ∈ entries.keys, BelongsTo key other := by
  rw [← Bool.not_eq_false, contains_eq_false_iff, h.get, meaning_eq_unknown_iff, owners_eq_nil_iff]
  push Not
  rfl

/-- One more entry is accepted. Only the keys that belong to it change, and its id
stood for nothing before. -/
theorem insert (h : c.Reflects entries) (hinsert : c.insert id value = .ok c') :
    c'.Reflects (entries ++ [(id, value)]) := by
  have hfree : c.contains id = false := by
    rw [contains, Entries.has, (insert_ok hinsert).1]
    rfl
  have howners : owners id entries = [] := by
    refine meaning_eq_unknown_iff.mp ((h.get id).symm.trans ?_)
    rw [← contains_eq_false_iff, hfree]
  have hkeys : Entries.keys (entries ++ [(id, value)]) = entries.keys ++ [id] := by
    simp [Entries.keys]
  refine ⟨by rw [ids_insert hinsert, h.ids, hkeys], ?_, fun key => ?_⟩
  · have hnew : id ∉ entries.keys := fun hmem => owners_eq_nil_iff.mp howners id hmem (.inl rfl)
    rw [hkeys]
    exact List.nodup_append_comm.mpr (List.nodup_cons.mpr ⟨hnew, h.distinct⟩)
  · rw [name_insert hinsert]
    by_cases hid : id = key
    · subst hid
      rw [get_insert_self hinsert, meaning_concat_of_belongsTo (.inl rfl), if_pos howners]
    · by_cases hshort : shortId? id = some key
      · rw [get_insert_short hinsert hshort hid, meaning_concat_of_belongsTo (.inr hshort)]
        by_cases hempty : owners key entries = []
        · rw [if_pos hempty, if_neg]
          rw [Bool.not_eq_true, contains_eq_false_iff, h.get, meaning_eq_unknown_iff, hempty]
        · rw [if_neg hempty, if_pos]
          rw [← Bool.not_eq_false, contains_eq_false_iff, h.get, meaning_eq_unknown_iff]
          exact hempty
      · rw [get_insert_other hinsert hshort hid, h.get,
          meaning_concat_of_not_belongsTo (not_or.mpr ⟨hid, hshort⟩)]

/-- After any offers the catalogue reflects what it accepted of them besides. -/
theorem offerAll (h : c.Reflects entries) :
    (c.offerAll offers).Reflects (entries ++ c.accepted offers) := by
  induction offers generalizing c entries with
  | nil => rwa [accepted, List.append_nil]
  | cons offer offers ih =>
      obtain ⟨id, value⟩ := offer
      rw [Catalogue.offerAll, accepted]
      rcases hinsert : c.insert id value with _ | c'
      · exact ih h
      · rw [List.append_cons]
        exact ih (h.insert hinsert)

/-- An accepted entry is found under its id if that is no short id of the others. -/
theorem get_of_mem (h : c.Reflects entries) (hmem : (id, value) ∈ entries)
    (hapart : ∀ other ∈ entries.keys, shortId? other ≠ some id) : c.get id = .ok value := by
  rw [h.get, meaning_of_mem h.distinct hmem hapart]

end Reflects

/-! ## What is listed -/

/-- What is picked from a list keeps its order. -/
theorem filterMap_sublist_map {β γ : Type} {f : β → Option γ} {g : β → γ} {xs : List β}
    (h : ∀ x ∈ xs, ∀ y, f x = some y → g x = y) : (xs.filterMap f).Sublist (xs.map g) := by
  induction xs with
  | nil => exact .slnil
  | cons x xs ih =>
      obtain ⟨hx, hxs⟩ := List.forall_mem_cons.mp h
      rw [List.filterMap_cons, List.map_cons]
      rcases hfound : f x with _ | y
      · exact (ih hxs).cons _
      · rw [hx y hfound]
        exact (ih hxs).cons_cons y

theorem values_eq_filterMap : c.values = c.ids.filterMap fun id => (c.get id).toOption := by
  unfold values
  refine List.filterMap_congr fun id _ => ?_
  unfold Catalogue.get
  rcases c.slots.find? id with _ | _ | _ <;> rfl

/-- The entries whose id is no short id of another one. -/
def unshared (entries : Entries α) : Entries α :=
  entries.filter fun entry => ∀ other ∈ entries.keys, shortId? other ≠ some entry.1

/-- Values are listed in the order of their ids, and none is missed whose id is no
short id of another entry. -/
theorem Reflects.values_between (h : c.Reflects entries) :
    (unshared entries).values.Sublist c.values ∧ c.values.Sublist entries.values := by
  have hvalues : c.values = entries.filterMap fun entry => (c.get entry.1).toOption := by
    rw [values_eq_filterMap, h.ids, Entries.keys, List.filterMap_map]
    rfl
  rw [hvalues]
  constructor
  · have hfound : (unshared entries).values =
        (unshared entries).filterMap fun entry => (c.get entry.1).toOption := by
      rw [Entries.values, ← List.filterMap_eq_map']
      refine List.filterMap_congr fun entry hentry => ?_
      obtain ⟨hmem, hapart⟩ := List.mem_filter.mp hentry
      rw [h.get_of_mem hmem (of_decide_eq_true hapart)]
      rfl
    rw [hfound]
    exact List.filter_sublist.filterMap _
  · refine filterMap_sublist_map fun entry hmem value hvalue => ?_
    rcases hget : c.get entry.1 with _ | found <;> rw [hget] at hvalue
    · cases hvalue
    · obtain rfl := Option.some.inj hvalue
      exact eq_of_meaning hmem ((h.get entry.1).symm.trans hget)

/-! ## What is kept -/

/-- The catalogue keeps the entries that it accepted. -/
structure KeepsAccepted (collection : String) (accepted : Entries α) (c : Catalogue α) : Prop where
  /-- An id is refused exactly if it is the id or the short id of an accepted entry. -/
  refuses_iff : ∀ id value, (∃ fault, c.insert id value = .error fault) ↔
    id ∈ accepted.keys ∨ ∃ other ∈ accepted.keys, shortId? other = some id
  /-- The fault names the collection and the id. -/
  fault : ∀ id value fault, c.insert id value = .error fault → fault = .duplicateId collection id
  ids : c.ids = accepted.keys
  size : c.size = accepted.length
  /-- Every accepted entry is found under its id, if that is no short id of the others. -/
  finds : ∀ id value, (id, value) ∈ accepted →
    (∀ other ∈ accepted.keys, shortId? other ≠ some id) → c.get id = .ok value
  /-- The values of these are listed, and others only in the order of acceptance. -/
  lists : (unshared accepted).values.Sublist c.values ∧ c.values.Sublist accepted.values
  /-- If no id is the short id of another entry, every id has its value in its place. -/
  values : (∀ id ∈ accepted.keys, ∀ other ∈ accepted.keys, shortId? other ≠ some id) →
    c.values = accepted.values

/-- A new catalogue keeps what it accepts of any offers. -/
theorem keepsAccepted_offerAll (collection : String) (offers : Entries α) :
    KeepsAccepted collection (({ name := collection } : Catalogue α).accepted offers)
      (({ name := collection } : Catalogue α).offerAll offers) := by
  have hreflects : (({ name := collection } : Catalogue α).offerAll offers).Reflects _ :=
    (Reflects.empty collection).offerAll
  rw [List.nil_append] at hreflects
  have hname : (({ name := collection } : Catalogue α).offerAll offers).name = collection :=
    name_offerAll
  generalize ({ name := collection } : Catalogue α).accepted offers = accepted at hreflects ⊢
  generalize ({ name := collection } : Catalogue α).offerAll offers = c at hreflects hname ⊢
  refine {
    refuses_iff := fun id value => ?_
    fault := fun id value fault h => hname ▸ (insert_eq_error_iff.mp h).2
    ids := hreflects.ids
    size := by rw [size, hreflects.ids, Entries.keys, List.length_map]
    finds := fun id value => hreflects.get_of_mem
    lists := hreflects.values_between
    values := fun hapart => ?_ }
  · simp only [insert_eq_error_iff, exists_and_left, exists_eq, and_true, hreflects.contains_iff,
      BelongsTo, and_or_left, exists_or, exists_eq_right]
  · have hall : unshared accepted = accepted :=
      List.filter_eq_self.mpr fun entry hmem =>
        decide_eq_true (hapart entry.1 (List.mem_map_of_mem hmem))
    obtain ⟨hlower, hupper⟩ := hreflects.values_between
    rw [hall] at hlower
    exact hupper.antisymm hlower

/-- Behind `a.find` the id `find` is refused although it was never accepted. Before
`a.find` it is accepted, and finds nothing and is not listed from then on. -/
theorem ids_collide_with_shortIds :
    let c : Catalogue Nat := { name := "Test collection" }
    ((c.offerAll [("a.find", 1)]).insert "find" 2 = .error (.duplicateId "Test collection" "find") ∧
      "find" ∉ (c.accepted [("a.find", 1)]).keys) ∧
    (("find", 1) ∈ c.accepted [("find", 1), ("a.find", 2)] ∧
      (c.offerAll [("find", 1), ("a.find", 2)]).get "find" =
        .error (.ambiguousId "Test collection" "find") ∧
      (c.offerAll [("find", 1), ("a.find", 2)]).values.length = 1 ∧
      (c.offerAll [("find", 1), ("a.find", 2)]).size = 2) := by
  exact ⟨⟨by rfl, by decide +kernel⟩, by decide +kernel, by rfl, by decide +kernel,
    by decide +kernel⟩

end SqlMapper.Catalogue
