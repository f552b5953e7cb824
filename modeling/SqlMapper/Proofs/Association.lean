import SqlMapper.Association

/-!
# Looking up in joined and duplicate-free associations

## Main results

* `Entries.find?_append` — the first list decides, and then the second.
* `Entries.find?_of_mem` — without repeated names every entry is found.
* `Entries.mem_of_find?` — what is found is an entry.
* `Entries.find?_perm` — without repeated names the order does not matter.
* `Entries.nodup_keys_put` — writing repeats no name.
* `Entries.mem_of_mem_sorted` — sorting adds no entry.
* `Entries.insert_insert` — of two values written under one name the second stays.
-/

namespace SqlMapper.Entries

variable {α : Type} {key : String} {value : α} {entries others : Entries α}

/-- In two lists the first one decides. -/
theorem find?_append :
    find? key (entries ++ others) = (find? key entries).or (find? key others) := by
  induction entries with
  | nil => rfl
  | cons entry entries ih =>
      obtain ⟨k, v⟩ := entry
      rw [List.cons_append, find?_cons, find?_cons, ih]
      split <;> rfl

/-- Without repeated names every entry is found under its name. -/
theorem find?_of_mem (hnodup : (keys entries).Nodup) (h : (key, value) ∈ entries) :
    find? key entries = some value := by
  induction entries with
  | nil => cases h
  | cons entry entries ih =>
      obtain ⟨k, v⟩ := entry
      obtain ⟨hk, hrest⟩ := List.nodup_cons.mp hnodup
      rcases List.mem_cons.mp h with heq | h
      · obtain ⟨rfl, rfl⟩ := Prod.mk.inj heq
        rw [find?_cons, if_pos rfl]
      · have hne : k ≠ key := by
          rintro rfl
          exact hk (List.mem_map.mpr ⟨(k, value), h, rfl⟩)
        rw [find?_cons, if_neg hne, ih hrest h]

/-- What is found is an entry. -/
theorem mem_of_find? (h : find? key entries = some value) : (key, value) ∈ entries := by
  induction entries with
  | nil => cases h
  | cons entry entries ih =>
      obtain ⟨k, v⟩ := entry
      rw [find?_cons] at h
      by_cases hkey : k = key
      · rw [if_pos hkey] at h
        obtain rfl := Option.some.inj h
        subst hkey
        exact List.mem_cons_self
      · rw [if_neg hkey] at h
        exact List.mem_cons_of_mem _ (ih h)

/-- Without repeated names the order of the entries does not matter. -/
theorem find?_perm (h : entries.Perm others) (hnodup : (keys entries).Nodup) (key : String) :
    find? key entries = find? key others := by
  have hothers : (keys others).Nodup := (h.map Prod.fst).nodup_iff.mp hnodup
  rcases hfind : find? key entries with _ | value
  · rcases hfind' : find? key others with _ | value
    · rfl
    · have hmem := h.mem_iff.mpr (mem_of_find? hfind')
      rw [find?_of_mem hnodup hmem] at hfind
      cases hfind
  · exact (find?_of_mem hothers (h.mem_iff.mp (mem_of_find? hfind))).symm

/-- Writing repeats no name. -/
theorem nodup_keys_put (h : (keys entries).Nodup) : (keys (put key value entries)).Nodup := by
  rw [keys_put]
  split
  · exact h
  · next hnew =>
      rw [List.nodup_append]
      refine ⟨h, List.pairwise_singleton _ _, ?_⟩
      rintro name hname _ (_ | ⟨_, ⟨⟩⟩) rfl
      exact hnew hname

/-- Writing in sorted order adds one entry at most. -/
theorem mem_of_mem_insert {entry : String × α} (h : entry ∈ insert key value entries) :
    entry = (key, value) ∨ entry ∈ entries := by
  induction entries with
  | nil => exact .inl (List.mem_singleton.mp h)
  | cons first entries ih =>
      obtain ⟨k, v⟩ := first
      rw [insert] at h
      split at h
      · exact (List.mem_cons.mp h).imp_right (List.mem_cons_of_mem _)
      · split at h
        · exact List.mem_cons.mp h
        · rcases List.mem_cons.mp h with rfl | h
          · exact .inr List.mem_cons_self
          · exact (ih h).imp_right (List.mem_cons_of_mem _)

/-- Sorting adds no entry. -/
theorem mem_of_mem_sorted {entry : String × α} {pairs : List (String × α)}
    (h : entry ∈ sorted pairs) : entry ∈ pairs := by
  have hall : ∀ entry ∈ sorted pairs, entry ∈ pairs := by
    refine List.foldlRecOn (motive := fun entries => ∀ entry ∈ entries, entry ∈ pairs) pairs _
      (fun _ hmem => absurd hmem List.not_mem_nil) ?_
    intro entries hentries pair hpair entry hmem
    rcases mem_of_mem_insert hmem with rfl | hmem
    · exact hpair
    · exact hentries entry hmem
  exact hall entry h

/-- Of two values written under one name the second stays. -/
theorem insert_insert (first second : α) :
    insert key second (insert key first entries) = insert key second entries := by
  induction entries with
  | nil => exact if_pos rfl
  | cons entry entries ih =>
      obtain ⟨k, v⟩ := entry
      by_cases hkey : key = k
      · simp only [insert, hkey, if_pos]
      · by_cases hlt : key < k
        · simp only [insert, hkey, hlt, if_pos, if_false]
        · simp only [insert, hkey, hlt, if_false, ih]

end SqlMapper.Entries
