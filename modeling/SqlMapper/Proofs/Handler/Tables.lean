import Mathlib.Data.List.Nodup
import SqlMapper.Proofs.Handler.BuiltIn

/-!
# What a table of handlers resolves

A table has at most one handler for a wire type: the one for it, or else the one
without wire type, or else the one that all its handlers are. The table tries the
three in turn. For the third it takes its first entry and compares the others with
it; which entry is the first depends on the order of registration, the outcome does
not.

## Main definitions

* `Handler.Identified` — handlers that are told apart by their identity.
* `HandlerTable.Resolves` — the three ways in which a table has a handler for a wire
  type.

## Main results

* `HandlerTable.get?_set` — what an entry changes.
* `HandlerTable.resolves_of_resolve?`, `HandlerTable.resolve?_eq_none_iff`,
  `HandlerTable.Resolves.tag_eq` — a table finds what it resolves, and resolves a
  wire type in at most one way.
* `HandlerTable.resolve?_congr` — the order of the entries is lost.
-/

namespace SqlMapper

/-! ## The identity of handlers -/

namespace Handler

variable {handlers others : List Handler}

/-- Two of the handlers are the same if their identities are. -/
def Identified (handlers : List Handler) : Prop :=
  ∀ a ∈ handlers, ∀ b ∈ handlers, a.tag = b.tag → a = b

/-- Handlers with different identities are told apart by them. -/
theorem identified_of_nodup (h : (handlers.map tag).Nodup) : Identified handlers :=
  fun _ ha _ hb htag => List.inj_on_of_nodup_map h ha hb htag

theorem Identified.subset (h : Identified others) (hsubset : handlers ⊆ others) :
    Identified handlers :=
  fun a ha b hb => h a (hsubset ha) b (hsubset hb)

end Handler

namespace HandlerTable

variable {table other : HandlerTable} {wire wire' : Option WireType} {handler handler' : Handler}

/-! ## Entries -/

/-- The wire types that the table lists. -/
def wires (table : HandlerTable) : List (Option WireType) := table.map Prod.fst

/-- The handlers that the table lists. -/
def handlers (table : HandlerTable) : List Handler := table.map Prod.snd

theorem mem_wires (h : (wire, handler) ∈ table) : wire ∈ table.wires :=
  List.mem_map.mpr ⟨_, h, rfl⟩

theorem get?_cons {entry : Option WireType × Handler} :
    get? (entry :: table) wire = if entry.1 = wire then some entry.2 else table.get? wire := by
  unfold get?
  rw [List.find?_cons]
  by_cases h : entry.1 = wire <;> simp [h]

theorem get?_set : (table.set wire handler).get? wire' =
    if wire = wire' then some handler else table.get? wire' := by
  induction table with
  | nil => exact get?_cons
  | cons entry table ih =>
      obtain ⟨w, first⟩ := entry
      rw [set]
      by_cases hw : w = wire
      · subst hw
        rw [if_pos rfl, get?_cons, get?_cons]
        split <;> rfl
      · rw [if_neg hw, get?_cons, get?_cons, ih]
        by_cases h : w = wire'
        · subst h
          rw [if_pos rfl, if_pos rfl, if_neg (Ne.symm hw)]
        · rw [if_neg h, if_neg h]

/-- A wire type that is listed keeps its place, and another one goes to the end. -/
theorem wires_set : (table.set wire handler).wires =
    if wire ∈ table.wires then table.wires else table.wires ++ [wire] := by
  induction table with
  | nil => simp [set, wires]
  | cons entry table ih =>
      obtain ⟨w, first⟩ := entry
      rw [set]
      by_cases hw : w = wire
      · simp [wires, hw]
      · unfold wires at ih ⊢
        simp only [hw, if_false, List.map_cons, ih, List.mem_cons, Ne.symm hw, false_or]
        split <;> simp [*]

/-- No wire type comes to be listed twice. -/
theorem nodup_wires_set (h : table.wires.Nodup) : (table.set wire handler).wires.Nodup := by
  rw [wires_set]
  split
  · exact h
  · next hnew => exact h.append (List.nodup_singleton _) (List.disjoint_singleton.mpr hnew)

theorem mem_of_get? (h : table.get? wire = some handler) : (wire, handler) ∈ table := by
  obtain ⟨⟨w, found⟩, hfind, rfl⟩ := Option.map_eq_some_iff.mp h
  obtain rfl : w = wire := by simpa using List.find?_some hfind
  exact List.mem_of_find?_eq_some hfind

theorem get?_eq_none_iff : table.get? wire = none ↔ wire ∉ table.wires := by
  constructor
  · intro h hlisted
    obtain ⟨entry, hmem, rfl⟩ := List.mem_map.mp hlisted
    exact List.find?_eq_none.mp (Option.map_eq_none_iff.mp h) entry hmem (decide_eq_true rfl)
  · intro h
    rcases hfound : table.get? wire with _ | found
    · rfl
    · exact absurd (mem_wires (mem_of_get? hfound)) h

/-- Where no wire type is listed twice, there is one entry for each. -/
theorem eq_of_mem (hwires : table.wires.Nodup) (h : (wire, handler) ∈ table)
    (h' : (wire, handler') ∈ table) : handler' = handler :=
  congrArg Prod.snd (List.inj_on_of_nodup_map hwires h' h rfl)

/-- Where no wire type is listed twice, every entry is found. -/
theorem get?_eq_some_iff (hwires : table.wires.Nodup) :
    table.get? wire = some handler ↔ (wire, handler) ∈ table := by
  refine ⟨mem_of_get?, fun hmem => ?_⟩
  rcases hfound : table.get? wire with _ | found
  · exact absurd (mem_wires hmem) (get?_eq_none_iff.mp hfound)
  · rw [eq_of_mem hwires hmem (mem_of_get? hfound)]

/-! ## Resolving a wire type -/

/-- The table has the handler for the wire type: as the one for it, or else as the
one without wire type, or else because all its handlers are this one. -/
inductive Resolves (table : HandlerTable) (wire : Option WireType) (handler : Handler) : Prop where
  | exact (hmem : (wire, handler) ∈ table)
  | untyped (hwire : wire ∉ table.wires) (hmem : (none, handler) ∈ table)
  | sole (hwire : wire ∉ table.wires) (hnone : none ∉ table.wires)
      (hmem : handler ∈ table.handlers) (hsame : ∀ other ∈ table.handlers, other.tag = handler.tag)

/-- The one handler of a table is its first one, if the others are the same. -/
theorem sole?_cons {others : HandlerTable} {first : Handler} :
    sole? ((wire, first) :: others) =
      if ∀ other ∈ others.handlers, other.tag = first.tag then some first else none := by
  rw [sole?]
  refine if_congr ?_ rfl rfl
  rw [List.all_eq_true, handlers, List.forall_mem_map]
  exact forall₂_congr fun entry _ => decide_eq_true_iff

theorem sole?_sound (h : table.sole? = some handler) :
    handler ∈ table.handlers ∧ ∀ other ∈ table.handlers, other.tag = handler.tag := by
  cases table with
  | nil => cases h
  | cons entry others =>
      obtain ⟨w, first⟩ := entry
      rw [sole?_cons] at h
      split at h
      · next hothers =>
          obtain rfl := Option.some.inj h
          exact ⟨List.mem_cons_self, List.forall_mem_cons.mpr ⟨rfl, hothers⟩⟩
      · cases h

theorem sole?_ne_none (hmem : handler ∈ table.handlers)
    (hsame : ∀ other ∈ table.handlers, other.tag = handler.tag) : table.sole? ≠ none := by
  cases table with
  | nil => cases hmem
  | cons entry others =>
      obtain ⟨w, first⟩ := entry
      obtain ⟨hfirst, hothers⟩ := List.forall_mem_cons.mp hsame
      have hfirsts : ∀ other ∈ handlers others, other.tag = first.tag := fun other hother =>
        (hothers other hother).trans hfirst.symm
      rw [sole?_cons, if_pos hfirsts]
      exact Option.some_ne_none _

/-- What a table finds it resolves. -/
theorem resolves_of_resolve? (h : table.resolve? wire = some handler) :
    table.Resolves wire handler := by
  rcases Option.or_eq_some_iff.mp h with hexact | ⟨hwire, h⟩
  · exact .exact (mem_of_get? hexact)
  · have hwire := get?_eq_none_iff.mp hwire
    rcases Option.or_eq_some_iff.mp h with huntyped | ⟨hnone, hsole⟩
    · exact .untyped hwire (mem_of_get? huntyped)
    · exact .sole hwire (get?_eq_none_iff.mp hnone) (sole?_sound hsole).1 (sole?_sound hsole).2

/-- A table that finds nothing resolves nothing. -/
theorem resolve?_eq_none_iff :
    table.resolve? wire = none ↔ ∀ handler, ¬ table.Resolves wire handler := by
  constructor
  · intro h handler hresolves
    rw [resolve?, Option.or_eq_none_iff, Option.or_eq_none_iff, get?_eq_none_iff,
      get?_eq_none_iff] at h
    obtain ⟨hwire, hnone, hsole⟩ := h
    cases hresolves with
    | exact hmem => exact hwire (mem_wires hmem)
    | untyped _ hmem => exact hnone (mem_wires hmem)
    | sole _ _ hmem hsame => exact sole?_ne_none hmem hsame hsole
  · intro h
    rcases hresolve : table.resolve? wire with _ | handler
    · rfl
    · exact absurd (resolves_of_resolve? hresolve) (h handler)

/-- Where no wire type is listed twice, a table resolves a wire type with one
handler at most. -/
theorem Resolves.tag_eq (hwires : table.wires.Nodup) (h : table.Resolves wire handler)
    (h' : table.Resolves wire handler') : handler'.tag = handler.tag := by
  cases h with
  | exact hmem =>
      cases h' with
      | exact hmem' => rw [eq_of_mem hwires hmem hmem']
      | untyped hwire _ | sole hwire _ _ _ => exact absurd (mem_wires hmem) hwire
  | untyped hwire hmem =>
      cases h' with
      | exact hmem' => exact absurd (mem_wires hmem') hwire
      | untyped _ hmem' => rw [eq_of_mem hwires hmem hmem']
      | sole _ hnone _ _ => exact absurd (mem_wires hmem) hnone
  | sole hwire hnone _ hsame =>
      cases h' with
      | exact hmem' => exact absurd (mem_wires hmem') hwire
      | untyped _ hmem' => exact absurd (mem_wires hmem') hnone
      | sole _ _ hmem' _ => exact hsame _ hmem'

theorem Resolves.mem_handlers (h : table.Resolves wire handler) : handler ∈ table.handlers := by
  cases h with
  | exact hmem | untyped _ hmem => exact List.mem_map.mpr ⟨_, hmem, rfl⟩
  | sole _ _ hmem _ => exact hmem

/-- A table finds exactly what it resolves, if it tells its handlers apart. -/
theorem resolve?_eq_some_iff (hwires : table.wires.Nodup)
    (hids : Handler.Identified table.handlers) :
    table.resolve? wire = some handler ↔ table.Resolves wire handler := by
  refine ⟨resolves_of_resolve?, fun h => ?_⟩
  rcases hresolve : table.resolve? wire with _ | found
  · exact absurd h (resolve?_eq_none_iff.mp hresolve handler)
  · have hfound := resolves_of_resolve? hresolve
    rw [hids found hfound.mem_handlers handler h.mem_handlers (h.tag_eq hwires hfound)]

theorem Resolves.of_mem_iff (hmem : ∀ entry, entry ∈ table ↔ entry ∈ other)
    (h : table.Resolves wire handler) : other.Resolves wire handler := by
  have hwires (wire : Option WireType) : wire ∈ table.wires ↔ wire ∈ other.wires := by
    simp [wires, hmem]
  have hhandlers (handler : Handler) : handler ∈ table.handlers ↔ handler ∈ other.handlers := by
    simp [handlers, hmem]
  cases h with
  | exact h => exact .exact ((hmem _).mp h)
  | untyped hwire h => exact .untyped (mt (hwires wire).mpr hwire) ((hmem _).mp h)
  | sole hwire hnone h hsame =>
      exact .sole (mt (hwires wire).mpr hwire) (mt (hwires none).mpr hnone)
        ((hhandlers handler).mp h) fun other hother => hsame other ((hhandlers other).mpr hother)

/-- A table resolves by what it has for each wire type, in whatever order. -/
theorem resolve?_congr (hwires : table.wires.Nodup) (hwires' : other.wires.Nodup)
    (hids : Handler.Identified table.handlers) (hids' : Handler.Identified other.handlers)
    (hsame : ∀ wire, table.get? wire = other.get? wire) :
    table.resolve? wire = other.resolve? wire := by
  have hmem (entry : Option WireType × Handler) : entry ∈ table ↔ entry ∈ other := by
    obtain ⟨w, h⟩ := entry
    rw [← get?_eq_some_iff hwires, ← get?_eq_some_iff hwires', hsame]
  refine Option.ext fun handler => ?_
  rw [resolve?_eq_some_iff hwires hids, resolve?_eq_some_iff hwires' hids']
  exact ⟨.of_mem_iff hmem, .of_mem_iff fun entry => (hmem entry).symm⟩

/-- A table that resolves no wire type resolves every wire type. -/
theorem isSome_resolve? (h : (table.resolve? none).isSome = true) :
    (table.resolve? wire).isSome = true := by
  unfold resolve? at h ⊢
  rw [Option.isSome_or, Option.isSome_or] at h ⊢
  cases hnone : (table.get? none).isSome <;> simp_all

end HandlerTable

end SqlMapper
