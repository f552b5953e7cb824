import SqlMapper.Catalogue
import SqlMapper.Proofs.Association
import SqlMapper.Proofs.Text.Segments

/-!
# Names in a catalogue

A full id has a dot. Whatever else is registered, it keeps its entry: ids are
registered once, and a short id, having no dot, is no full id. So a catalogue
is determined by the entries that were registered: a name finds the entry of
that id, and a name without a dot otherwise the only entry whose id ends in
it.

## Main definitions

* `Catalogue.namesakes` — the entries that a short id may mean.
* `Catalogue.Extends` — entries were registered, one after the other.
* `Catalogue.lookUp` — what a name finds once entries are added.
* `Catalogue.search` — what a name finds in a list of values.
* `Catalogue.KeptBy` — another catalogue finds no less under full ids.

## Main results

* `Catalogue.insert_ok` — what a registration that succeeds does.
* `Catalogue.get_insert` — full ids after a registration.
* `Catalogue.Extends.get_eq` — all names after any registrations.
* `Catalogue.Extends.get_perm` — the order of registration does not matter for
  what a name finds.
* `Catalogue.KeptBy.extends` — the same registrations in both catalogues.
* `Catalogue.Extends.get_of_empty`, `Catalogue.Extends.values_of_empty` — a
  catalogue that was empty is searched and listed like a list of values.
-/

namespace SqlMapper.Catalogue

/-! ## Short ids -/

/-- A short id has no dot. -/
theorem not_mem_of_shortId {id short : String} (h : shortId? id = some short) :
    '.' ∉ short.toList := by
  rw [shortId?, Option.map_eq_some_iff] at h
  obtain ⟨⟨before, after⟩, hcut, rfl⟩ := h
  rw [String.toList_ofList]
  exact Text.not_mem_of_cutLast hcut

/-- The id ends in the name, with a dot before it. -/
def EndsIn (name id : String) : Prop := ('.' :: name.toList) <:+ id.toList

instance (name id : String) : Decidable (EndsIn name id) :=
  inferInstanceAs (Decidable (('.' :: name.toList) <:+ id.toList))

/-- The short id of an id is the name without a dot that it ends in. -/
theorem shortId?_eq_some_iff {id name : String} :
    shortId? id = some name ↔ '.' ∉ name.toList ∧ EndsIn name id := by
  constructor
  · intro h
    refine ⟨not_mem_of_shortId h, ?_⟩
    rw [shortId?, Option.map_eq_some_iff] at h
    obtain ⟨⟨before, after⟩, hcut, rfl⟩ := h
    rw [EndsIn, String.toList_ofList]
    exact ⟨before, (Text.eq_append_of_cutLast hcut).symm⟩
  · rintro ⟨hdot, before, hbefore⟩
    rw [shortId?, ← hbefore, Text.cutLast_append hdot]
    simp

/-! ## Registering -/

variable {α : Type} {c c' c'' : Catalogue α} {id key : String} {value : α}
  {entries others : Entries α}

/-- The slots in which the short id of an entry is claimed. -/
def claimed (c : Catalogue α) (id : String) (value : α) : Entries (CatalogueSlot α) :=
  match shortId? id with
  | some short => claimShort short value c.slots
  | none => c.slots

/-- A registration that succeeds is the first one of its id; it claims the
short id and puts the entry. -/
theorem insert_ok (h : c.insert id value = .ok c') :
    c.slots.find? id = none ∧
      c' = { c with
        slots := (c.claimed id value).put id (.entry value)
        ids := c.ids ++ [id] } := by
  unfold insert at h
  split at h
  · cases h
  · next hfree =>
      refine ⟨?_, (Except.ok.inj h).symm⟩
      simpa [Entries.has] using hfree

/-- A registration fails if its id stands for something already, and only
then. -/
theorem insert_of_contains (h : c.contains id = true) :
    c.insert id value = .error (.duplicateId c.name id) :=
  if_pos h

theorem exists_insert_of_not_contains (value : α) (h : c.contains id = false) :
    ∃ c', c.insert id value = .ok c' :=
  ⟨_, if_neg (by simpa [contains] using h)⟩

theorem name_insert (h : c.insert id value = .ok c') : c'.name = c.name := by
  obtain ⟨-, rfl⟩ := insert_ok h
  rfl

theorem ids_insert (h : c.insert id value = .ok c') : c'.ids = c.ids ++ [id] := by
  obtain ⟨-, rfl⟩ := insert_ok h
  rfl

/-! ## Looking up after a registration -/

theorem get_eq_ok_iff {entry : α} :
    c.get key = .ok entry ↔ c.slots.find? key = some (.entry entry) := by
  unfold get
  rcases c.slots.find? key with _ | _ | _ <;> simp

theorem contains_eq_false_iff :
    c.contains key = false ↔ c.get key = .error (.unknownId c.name key) := by
  unfold contains Entries.has get
  rcases c.slots.find? key with _ | _ | _ <;> simp

/-- Catalogues of one name that answer alike for a key both contain it or both
do not. -/
theorem contains_congr (hname : c'.name = c.name) (h : c'.get key = c.get key) :
    c'.contains key = c.contains key := by
  rw [Bool.eq_iff_iff, ← Bool.not_eq_false, ← Bool.not_eq_false, contains_eq_false_iff,
    contains_eq_false_iff, hname, h]

/-- What is registered is found under its id. -/
theorem get_insert_self (h : c.insert id value = .ok c') : c'.get id = .ok value := by
  obtain ⟨-, rfl⟩ := insert_ok h
  rw [get_eq_ok_iff, Entries.find?_put, if_pos rfl]

/-- The short id of an entry finds it if it stood for nothing before. -/
theorem get_insert_short (h : c.insert id value = .ok c') (hshort : shortId? id = some key)
    (hne : id ≠ key) : c'.get key =
      if c.contains key then .error (.ambiguousId c.name key) else .ok value := by
  obtain ⟨-, rfl⟩ := insert_ok h
  unfold get claimed claimShort
  dsimp only
  rw [hshort, Entries.find?_put, if_neg hne, Entries.find?_put, if_pos rfl, contains]
  by_cases hkey : c.slots.has key = true
  · rw [if_pos hkey, if_pos hkey]
  · rw [if_neg hkey, if_neg hkey]

/-- Every other name finds what it found before. -/
theorem get_insert_other (h : c.insert id value = .ok c') (hshort : shortId? id ≠ some key)
    (hne : id ≠ key) : c'.get key = c.get key := by
  obtain ⟨-, rfl⟩ := insert_ok h
  unfold get claimed claimShort
  dsimp only
  rw [Entries.find?_put, if_neg hne]
  rcases hid : shortId? id with _ | short
  · rfl
  · have hkey : short ≠ key := by
      rintro rfl
      exact hshort hid
    dsimp only
    rw [Entries.find?_put, if_neg hkey]

/-- After a registration its id has the new entry and every other full id the
entry it had. -/
theorem get_insert (h : c.insert id value = .ok c') (hkey : '.' ∈ key.toList) :
    c'.get key = if id = key then .ok value else c.get key := by
  by_cases hne : id = key
  · rw [if_pos hne, ← hne, get_insert_self h]
  · have hshort : shortId? id ≠ some key := fun hid => not_mem_of_shortId hid hkey
    rw [if_neg hne, get_insert_other h hshort hne]

/-- A full id keeps its entry. -/
theorem get_insert_of_get {entry : α} (h : c.insert id value = .ok c') (hkey : '.' ∈ key.toList)
    (hentry : c.get key = .ok entry) : c'.get key = .ok entry := by
  have hne : id ≠ key := by
    rintro rfl
    obtain ⟨hfree, -⟩ := insert_ok h
    rw [get, hfree] at hentry
    cases hentry
  rw [get_insert h hkey, if_neg hne, hentry]

/-! ## Looking up in a list of entries -/

/-- The entries whose id ends in the name. -/
def namesakes (name : String) (entries : Entries α) : Entries α :=
  entries.filter fun entry => EndsIn name entry.1

/-- What a name finds once the entries are added to the catalogue. An added
entry is found under its id. A name without a dot, if it is no id, stands for
everything that it stood for before and for every added entry whose id ends in
it; it finds the only one and is ambiguous if there are more. -/
def lookUp (c : Catalogue α) (entries : Entries α) (name : String) : Except Fault α :=
  match entries.find? name with
  | some value => .ok value
  | none =>
      if '.' ∈ name.toList then c.get name
      else
        match namesakes name entries with
        | [] => c.get name
        | [(_, value)] =>
            if c.contains name then .error (.ambiguousId c.name name) else .ok value
        | _ => .error (.ambiguousId c.name name)

theorem namesakes_concat {name : String} : namesakes name (entries ++ [(id, value)]) =
    if EndsIn name id then namesakes name entries ++ [(id, value)] else namesakes name entries := by
  unfold namesakes
  rw [List.filter_append]
  by_cases hends : EndsIn name id <;> simp [hends]

/-- The entries were registered in the catalogue under full ids, one after the
other. -/
inductive Extends (c : Catalogue α) : Entries α → Catalogue α → Prop where
  | refl : Extends c [] c
  | insert {entries : Entries α} {c' c'' : Catalogue α} {id : String} {value : α}
      (hextends : Extends c entries c') (hid : '.' ∈ id.toList)
      (hinsert : c'.insert id value = .ok c'') : Extends c (entries ++ [(id, value)]) c''

namespace Extends

theorem trans (h : c.Extends entries c') (h' : c'.Extends others c'') :
    c.Extends (entries ++ others) c'' := by
  induction h' with
  | refl => rwa [List.append_nil]
  | insert _ hid hinsert ih =>
      rw [← List.append_assoc]
      exact .insert ih hid hinsert

theorem eq_of_nil (h : c.Extends [] c') : c' = c := by
  generalize hentries : ([] : Entries α) = entries at h
  cases h with
  | refl => rfl
  | insert => simp at hentries

theorem name_eq (h : c.Extends entries c') : c'.name = c.name := by
  induction h with
  | refl => rfl
  | insert _ _ hinsert ih => rw [name_insert hinsert, ih]

/-- The ids are listed in the order of registration. -/
theorem ids_eq (h : c.Extends entries c') : c'.ids = c.ids ++ entries.keys := by
  induction h with
  | refl => simp [Entries.keys]
  | insert _ _ hinsert ih => simp [ids_insert hinsert, ih, Entries.keys]

/-- A full id keeps its entry. -/
theorem get_of_get {entry : α} (h : c.Extends entries c') (hkey : '.' ∈ key.toList)
    (hentry : c.get key = .ok entry) : c'.get key = .ok entry := by
  induction h with
  | refl => exact hentry
  | insert _ _ hinsert ih => exact get_insert_of_get hinsert hkey ih

/-- Full ids are registered. -/
theorem dotted (h : c.Extends entries c') : ∀ id ∈ entries.keys, '.' ∈ id.toList := by
  induction h with
  | refl => simp [Entries.keys]
  | insert _ hid _ ih =>
      intro key hkey
      simp only [Entries.keys, List.map_append, List.mem_append, List.map_cons, List.map_nil,
        List.mem_singleton] at hkey
      rcases hkey with hkey | rfl
      · exact ih key hkey
      · exact hid

/-- A name without a dot is no registered id. -/
theorem find?_of_short (h : c.Extends entries c') (hkey : '.' ∉ key.toList) :
    entries.find? key = none := by
  have hkeys : key ∉ entries.keys := fun hmem => hkey (h.dotted key hmem)
  rw [← Entries.find?_isSome_iff] at hkeys
  simpa using hkeys

/-- An id that can be registered has no entry yet. -/
private theorem find?_of_insert (hget : c'.get id = c.lookUp entries id)
    (hinsert : c'.insert id value = .ok c'') : entries.find? id = none := by
  have hfree : c'.get id = .error (.unknownId c'.name id) :=
    contains_eq_false_iff.mp (by simp [contains, Entries.has, (insert_ok hinsert).1])
  rcases hfind : entries.find? id with _ | earlier
  · rfl
  · unfold lookUp at hget
    rw [hfind, hfree] at hget
    cases hget

/-- A short id of some entry stands for something. -/
private theorem contains_of_namesakes (hget : c'.get key = c.lookUp entries key)
    (hdot : '.' ∉ key.toList) (hsome : namesakes key entries ≠ []) : c'.contains key = true := by
  rw [← Bool.not_eq_false, contains_eq_false_iff, hget]
  unfold lookUp
  rcases entries.find? key with _ | found
  · simp only [if_neg hdot]
    rcases hnamesakes : namesakes key entries with _ | ⟨⟨first, value⟩, _ | ⟨second, more⟩⟩
    · exact absurd hnamesakes hsome
    · dsimp only
      split <;> simp
    · simp
  · simp

/-- A name finds what it finds with the entries. -/
theorem get_eq (h : c.Extends entries c') (name : String) :
    c'.get name = c.lookUp entries name := by
  induction h with
  | refl =>
      unfold lookUp
      simp [namesakes]
  | @insert entries c' c'' id value hextends hid hinsert ih =>
      have hends (hdot : '.' ∉ name.toList) : shortId? id = some name ↔ EndsIn name id := by
        rw [shortId?_eq_some_iff]
        exact and_iff_right hdot
      by_cases hname : id = name
      · subst hname
        have hfresh := find?_of_insert ih hinsert
        unfold lookUp
        rw [get_insert_self hinsert, Entries.find?_append, hfresh, Entries.find?_cons, if_pos rfl]
        rfl
      · have hfind : Entries.find? name (entries ++ [(id, value)]) = entries.find? name := by
          rw [Entries.find?_append, Entries.find?_cons, if_neg hname, Entries.find?_nil,
            Option.or_none]
        by_cases hdot : '.' ∈ name.toList
        · rw [get_insert hinsert hdot, if_neg hname, ih]
          unfold lookUp
          rw [hfind, if_pos hdot, if_pos hdot]
        · by_cases hshort : EndsIn name id
          · -- the name stands for one entry more
            rw [get_insert_short hinsert ((hends hdot).mpr hshort) hname, hextends.name_eq]
            have hcontains := contains_of_namesakes ih hdot
            unfold lookUp at ih ⊢
            rw [hextends.find?_of_short hdot] at ih
            rw [hfind, hextends.find?_of_short hdot, namesakes_concat, if_pos hshort]
            simp only [if_neg hdot] at ih ⊢
            rcases hnamesakes : namesakes name entries with _ | ⟨first, _ | ⟨second, more⟩⟩
            · rw [hnamesakes] at ih
              rw [contains_congr hextends.name_eq ih]
              rfl
            · rw [if_pos (hcontains (by simp [hnamesakes]))]
              rfl
            · rw [if_pos (hcontains (by simp [hnamesakes]))]
              rfl
          · have hother : shortId? id ≠ some name := fun h => hshort ((hends hdot).mp h)
            rw [get_insert_other hinsert hother hname, ih]
            unfold lookUp
            rw [hfind, namesakes_concat, if_neg hshort]

/-- No id is registered twice. -/
theorem distinct (h : c.Extends entries c') : entries.keys.Nodup := by
  induction h with
  | refl => exact List.nodup_nil
  | @insert entries c' c'' id value hextends hid hinsert ih =>
      have hfresh : id ∉ entries.keys := by
        rw [← Entries.find?_isSome_iff, find?_of_insert (hextends.get_eq id) hinsert]
        simp
      have hkeys : Entries.keys (entries ++ [(id, value)]) = entries.keys ++ [id] := by
        simp [Entries.keys]
      rw [hkeys, List.nodup_append]
      refine ⟨ih, by simp, ?_⟩
      rintro key hkey _ hmem rfl
      rw [List.mem_singleton] at hmem
      exact hfresh (hmem ▸ hkey)

end Extends

/-! ## The order of registration -/

/-- What a name finds does not depend on the order of the added entries. -/
theorem lookUp_perm (h : entries.Perm others) (hnodup : entries.keys.Nodup) (name : String) :
    c.lookUp entries name = c.lookUp others name := by
  have hnamesakes : (namesakes name entries).Perm (namesakes name others) := h.filter _
  unfold lookUp
  rw [Entries.find?_perm h hnodup]
  generalize namesakes name entries = found at hnamesakes ⊢
  generalize namesakes name others = found' at hnamesakes ⊢
  rcases found with _ | ⟨entry, _ | ⟨second, more⟩⟩
  · rw [List.nil_perm.mp hnamesakes]
  · rw [List.singleton_perm.mp hnamesakes]
  · rcases found' with _ | ⟨entry', _ | ⟨second', more'⟩⟩
    · exact absurd hnamesakes.length_eq (by simp)
    · exact absurd hnamesakes.length_eq (by simp)
    · rfl

/-- The same entries registered in another order are found by the same
names. -/
theorem Extends.get_perm (h : c.Extends entries c') (h' : c.Extends others c'')
    (hperm : entries.Perm others) (name : String) : c'.get name = c''.get name := by
  rw [h.get_eq, h'.get_eq, lookUp_perm hperm h.distinct]

/-! ## Catalogues that find no less -/

/-- A full id that finds an entry in the one catalogue finds it in the other. -/
def KeptBy (c d : Catalogue α) : Prop :=
  ∀ key entry, '.' ∈ key.toList → c.get key = .ok entry → d.get key = .ok entry

theorem KeptBy.refl : c.KeptBy c := fun _ _ _ hentry => hentry

theorem Extends.keptBy (h : c.Extends entries c') : c.KeptBy c' :=
  fun _ _ hkey hentry => h.get_of_get hkey hentry

/-- The same registrations in both catalogues. -/
theorem KeptBy.extends {d d' : Catalogue α} (h : c.KeptBy d) (hc : c.Extends entries c')
    (hd : d.Extends entries d') : c'.KeptBy d' := by
  intro key entry hkey hentry
  rw [hc.get_eq] at hentry
  rw [hd.get_eq]
  unfold lookUp at hentry ⊢
  rcases hfind : entries.find? key with _ | value <;> rw [hfind] at hentry
  · dsimp only at hentry ⊢
    rw [if_pos hkey] at hentry ⊢
    exact h key entry hkey hentry
  · exact hentry

/-! ## Catalogues that were empty -/

/-- What a name finds in a list of values: the value of that id, or else, for
a name without a dot, the only value whose id ends in it. -/
def search (collection : String) (idOf : α → String) (values : List α) (name : String) :
    Except Fault α :=
  match values.find? fun value => idOf value = name with
  | some value => .ok value
  | none =>
      if '.' ∈ name.toList then .error (.unknownId collection name)
      else
        match values.filter fun value => EndsIn name (idOf value) with
        | [] => .error (.unknownId collection name)
        | [value] => .ok value
        | _ => .error (.ambiguousId collection name)

/-- The values under their ids. -/
def entriesOf (idOf : α → String) (values : List α) : Entries α :=
  values.map fun value => (idOf value, value)

theorem keys_entriesOf (idOf : α → String) (values : List α) :
    (entriesOf idOf values).keys = values.map idOf := by
  simp [entriesOf, Entries.keys]

theorem find?_entriesOf {idOf : α → String} {values : List α} {name : String} :
    (entriesOf idOf values).find? name = values.find? fun value => idOf value = name := by
  induction values with
  | nil => rfl
  | cons value values ih =>
      show (if idOf value = name then some value else Entries.find? name (entriesOf idOf values)) = _
      rw [List.find?_cons, ih]
      by_cases hid : idOf value = name <;> simp [hid]

theorem namesakes_entriesOf {idOf : α → String} {values : List α} {name : String} :
    namesakes name (entriesOf idOf values) =
      entriesOf idOf (values.filter fun value => EndsIn name (idOf value)) := by
  unfold namesakes entriesOf
  rw [List.filter_map]
  rfl

/-- One more value is registered under its id. -/
theorem Extends.insert_value {idOf : α → String} {values : List α} {value : α}
    (h : c.Extends (entriesOf idOf values) c') (hid : '.' ∈ (idOf value).toList)
    (hinsert : c'.insert (idOf value) value = .ok c'') :
    c.Extends (entriesOf idOf (values ++ [value])) c'' := by
  rw [entriesOf, List.map_append]
  exact h.insert hid hinsert

section Empty

variable {collection : String} {idOf : α → String} {values : List α}

/-- In a catalogue that was empty a name finds what it finds in the list of
the registered values. -/
theorem Extends.get_of_empty
    (h : ({ name := collection } : Catalogue α).Extends (entriesOf idOf values) c)
    (name : String) : c.get name = search collection idOf values name := by
  rw [h.get_eq]
  unfold lookUp search
  rw [find?_entriesOf, namesakes_entriesOf]
  rcases values.find? fun value => idOf value = name with _ | found
  · rcases values.filter fun value => EndsIn name (idOf value) with _ | ⟨first, _ | ⟨second, more⟩⟩ <;>
      rfl
  · rfl

/-- A registered value is found under its id. -/
theorem Extends.get_of_mem {c₀ : Catalogue α} {value : α}
    (h : c₀.Extends (entriesOf idOf values) c) (hmem : value ∈ values) :
    c.get (idOf value) = .ok value := by
  have hentry : (entriesOf idOf values).find? (idOf value) = some value :=
    Entries.find?_of_mem h.distinct (List.mem_map_of_mem hmem)
  rw [h.get_eq]
  unfold lookUp
  rw [hentry]

/-- In a catalogue that was empty a full id finds the registered value of that
id, and nothing else. -/
theorem Extends.get_eq_ok_iff_of_empty {value : α}
    (h : ({ name := collection } : Catalogue α).Extends (entriesOf idOf values) c)
    (hkey : '.' ∈ key.toList) : c.get key = .ok value ↔ value ∈ values ∧ idOf value = key := by
  constructor
  · intro hget
    rw [h.get_of_empty] at hget
    unfold search at hget
    split at hget
    · next found hfind =>
        obtain rfl := Except.ok.inj hget
        exact ⟨List.mem_of_find?_eq_some hfind, by simpa using List.find?_some hfind⟩
    · rw [if_pos hkey] at hget
      cases hget
  · rintro ⟨hmem, rfl⟩
    exact h.get_of_mem hmem

/-- A catalogue that was empty lists the registered values. -/
theorem Extends.values_of_empty
    (h : ({ name := collection } : Catalogue α).Extends (entriesOf idOf values) c) :
    c.values = values := by
  have hfound : ∀ value ∈ values, c.slots.find? (idOf value) = some (.entry value) :=
    fun value hmem => get_eq_ok_iff.mp (h.get_of_mem hmem)
  have hids : c.ids = values.map idOf := by
    rw [h.ids_eq, keys_entriesOf]
    rfl
  unfold Catalogue.values
  rw [hids, List.filterMap_map]
  conv_rhs => rw [← List.filterMap_some (l := values)]
  refine List.filterMap_congr fun value hmem => ?_
  rw [Function.comp_apply, hfound value hmem]

end Empty

end SqlMapper.Catalogue
