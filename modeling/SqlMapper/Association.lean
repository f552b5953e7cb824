/-!
# Associations: lists of named values

A named value is found under its name; the order of the list is the order
in which the names show. Two ways of writing keep two orders: `put` keeps
the order of first insertion, `insert` keeps the names sorted.

## Main results

* `find?_put`, `find?_insert` — after a write, the written name has the new
  value and every other name the value it had.
-/

namespace SqlMapper

/-- Named values in the order in which the names show. -/
abbrev Entries (α : Type) := List (String × α)

namespace Entries

variable {α : Type}

/-! ## Reading -/

/-- The value of the first entry with the given name. -/
def find? (key : String) : Entries α → Option α
  | [] => none
  | (k, v) :: rest => if k = key then some v else find? key rest

/-- The names, in order. -/
def keys (entries : Entries α) : List String := entries.map Prod.fst

/-- The values, in order. -/
def values (entries : Entries α) : List α := entries.map Prod.snd

/-- Some entry has the given name. -/
def has (key : String) (entries : Entries α) : Bool := (find? key entries).isSome

@[simp] theorem find?_nil (key : String) : find? key ([] : Entries α) = none := rfl

theorem find?_cons (key k : String) (v : α) (rest : Entries α) :
    find? key ((k, v) :: rest) = if k = key then some v else find? key rest := rfl

/-- A name is found exactly if it is listed. -/
theorem find?_isSome_iff {key : String} {entries : Entries α} :
    (find? key entries).isSome = true ↔ key ∈ keys entries := by
  induction entries with
  | nil => simp [keys]
  | cons entry rest ih =>
      obtain ⟨k, v⟩ := entry
      by_cases h : k = key
      · simp [find?_cons, keys, h]
      · simp only [find?_cons, h, if_false, ih, keys, List.map_cons, List.mem_cons]
        exact ⟨Or.inr, fun hm => hm.resolve_left (Ne.symm h)⟩

/-! ## Writing in order of first insertion -/

/-- Replaces the value of a listed name in its place; a new name goes to the
end. -/
def put (key : String) (value : α) : Entries α → Entries α
  | [] => [(key, value)]
  | (k, v) :: rest => if k = key then (k, value) :: rest else (k, v) :: put key value rest

/-- Puts the pairs in turn. -/
def ofPairs (pairs : List (String × α)) : Entries α :=
  pairs.foldl (fun entries pair => put pair.1 pair.2 entries) []

/-- After `put`, the name has the new value and every other name the value
it had. -/
theorem find?_put (key key' : String) (value : α) (entries : Entries α) :
    find? key' (put key value entries) =
      if key = key' then some value else find? key' entries := by
  induction entries with
  | nil => simp [put, find?_cons]
  | cons entry rest ih =>
      obtain ⟨k, v⟩ := entry
      by_cases h : k = key
      · by_cases h' : key = key' <;> simp [put, find?_cons, h, h']
      · by_cases h' : key = key'
        · subst h'
          simp [put, find?_cons, h, ih]
        · simp [put, find?_cons, h, ih, h']

/-- `put` adds a new name at the end and keeps the listed ones. -/
theorem keys_put (key : String) (value : α) (entries : Entries α) :
    keys (put key value entries) =
      if key ∈ keys entries then keys entries else keys entries ++ [key] := by
  induction entries with
  | nil => simp [put, keys]
  | cons entry rest ih =>
      obtain ⟨k, v⟩ := entry
      by_cases h : k = key
      · simp [put, keys, h]
      · simp only [keys] at ih
        simp only [put, keys, h, if_false, List.map_cons, ih, List.mem_cons, Ne.symm h, false_or]
        split <;> rename_i hk <;> simp [hk]

/-! ## Writing in sorted order -/

/-- Replaces the value of a listed name; a new name goes before the first
greater one. -/
def insert (key : String) (value : α) : Entries α → Entries α
  | [] => [(key, value)]
  | (k, v) :: rest =>
      if key = k then (key, value) :: rest
      else if key < k then (key, value) :: (k, v) :: rest
      else (k, v) :: insert key value rest

/-- Inserts the pairs in turn. -/
def sorted (pairs : List (String × α)) : Entries α :=
  pairs.foldl (fun entries pair => insert pair.1 pair.2 entries) []

/-- After `insert`, the name has the new value and every other name the
value it had. -/
theorem find?_insert (key key' : String) (value : α) (entries : Entries α) :
    find? key' (insert key value entries) =
      if key = key' then some value else find? key' entries := by
  induction entries with
  | nil => simp [insert, find?_cons]
  | cons entry rest ih =>
      obtain ⟨k, v⟩ := entry
      by_cases h : key = k
      · subst h
        by_cases h' : key = key' <;> simp [insert, find?_cons, h']
      · by_cases h' : key = key'
        · subst h'
          by_cases hlt : key < k <;> simp [insert, find?_cons, h, hlt, ih, Ne.symm h]
        · by_cases hlt : key < k <;> simp [insert, find?_cons, h, hlt, ih, h']

end Entries

end SqlMapper
