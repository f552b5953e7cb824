import SqlMapper.Proofs.Handler.Registration
import SqlMapper.Proofs.Property.Assignability

/-!
# The handler of the nearest supertype

An object type without a handler of its own takes the one of a supertype, and
which one that is, is said by a walk: the type, then all that is above the first
supertype that it declares, then all that is above the next one. A type may come up
several times, and a type whose table does not resolve the wire type is passed by as
if it had none.

The walk is described here by a relation that knows no bound. Where no declarations
lead back, the walk of bounded depth is that walk: a type outranks its supertypes, so
that no walk is deeper than there are known types.

The same answer is found without a list of the walk, by a search that goes from a type
to its supertypes and takes the first of them under which it finds anything.

## Main definitions

* `Family.Walk`, `ValueType.IsWalk` — the walk over supertypes, and over what is
  asked for a value type.
* `HandlerRegistry.step` — one step of the search, from a type to its supertypes.
* `HandlerRegistry.IsNearest` — the handler of the first type on a walk that
  resolves the wire type.

## Main results

* `Family.walk_lineage`, `Family.Walk.unique` — a lineage is the one walk.
* `HandlerRegistry.find?_eq_step`, `HandlerRegistry.eq_find?_of_step` — what a
  registry finds on the lineage is what the search step by step finds.
* `HandlerRegistry.find?_nearest` — the handler that a registry finds.
-/

namespace SqlMapper

open Relation (ReflTransGen)

/-! ## The walk over the supertypes -/

namespace Family

variable {family : Family} {type other : TypeName} {types walk : List TypeName}

/-- The walk over some types in turn: the first of them, then what is above it in
the order of declaration, and then the others. -/
inductive Walk (family : Family) : List TypeName → List TypeName → Prop where
  | done : Walk family [] []
  | visit {type : TypeName} {others above rest : List TypeName} :
      Walk family (family.shape type).supertypes above → Walk family others rest →
        Walk family (type :: others) (type :: (above ++ rest))

/-- There is no other walk over the types. -/
theorem Walk.unique {walk' : List TypeName} (h : family.Walk types walk)
    (h' : family.Walk types walk') : walk' = walk := by
  induction h generalizing walk' with
  | done =>
      cases h'
      rfl
  | visit _ _ ihabove ihrest =>
      cases h' with
      | visit habove hrest => rw [ihabove habove, ihrest hrest]

/-- The walks over single types make up the walk over all of them. -/
theorem walk_flatMap {walkOf : TypeName → List TypeName}
    (h : ∀ type ∈ types, family.Walk [type] (walkOf type)) :
    family.Walk types (types.flatMap walkOf) := by
  induction types with
  | nil => exact .done
  | cons type others ih =>
      obtain ⟨hfirst, hothers⟩ := List.forall_mem_cons.mp h
      rw [List.flatMap_cons]
      generalize walkOf type = walk at hfirst
      cases hfirst with
      | visit habove hnone =>
          cases hnone
          rw [List.append_nil, List.cons_append]
          exact .visit habove (ih hothers)

/-- The walk of bounded depth is the walk, if the depth is not below the rank of the
type. The supertypes of a type are of lower rank. -/
theorem walk_lineageWithin {depth : Nat} (hacyclic : ∀ type, family.AcyclicAt type)
    (hdepth : family.rank type ≤ depth) : family.Walk [type] (family.lineageWithin depth type) := by
  induction depth generalizing type with
  | zero =>
      have hnone : (family.shape type).supertypes = [] :=
        List.eq_nil_iff_forall_not_mem.mpr fun parent hparent => by
          have hlower := rank_lt_of_declares (hacyclic (.object type)) hparent
          omega
      have habove : family.Walk (family.shape type).supertypes [] := by
        rw [hnone]
        exact .done
      exact .visit habove .done
  | succ depth ih =>
      have habove : family.Walk (family.shape type).supertypes
          ((family.shape type).supertypes.flatMap (family.lineageWithin depth)) := by
        refine walk_flatMap fun parent hparent => ih ?_
        have hlower := rank_lt_of_declares (hacyclic (.object type)) hparent
        omega
      have hwalk := Walk.visit habove .done
      rwa [List.append_nil] at hwalk

/-- Where no declarations lead back, a lineage is the walk over the type. -/
theorem walk_lineage (hacyclic : ∀ type, family.AcyclicAt type) (type : TypeName) :
    family.Walk [type] (family.lineage type) :=
  walk_lineageWithin hacyclic (rank_le family type)

/-- A lineage goes on with the lineages of the supertypes. -/
theorem lineage_eq (hacyclic : ∀ type, family.AcyclicAt type) (type : TypeName) :
    family.lineage type = type :: (family.shape type).supertypes.flatMap family.lineage := by
  have habove : family.Walk (family.shape type).supertypes
      ((family.shape type).supertypes.flatMap family.lineage) :=
    walk_flatMap fun parent _ => walk_lineage hacyclic parent
  have hwalk := Walk.visit habove .done
  rw [List.append_nil] at hwalk
  exact hwalk.unique (walk_lineage hacyclic type)

theorem mem_lineage_iff :
    other ∈ family.lineage type ↔ ReflTransGen family.Declares type other := by
  rw [← isSubtype_iff, isSubtype, List.contains_iff_mem]

end Family

/-- The walk that asks for a handler of a value type: over an object type and its
supertypes, and over any other type alone. -/
def ValueType.IsWalk (family : Family) (type : ValueType) (walk : List ValueType) : Prop :=
  match type with
  | .object name => ∃ names, family.Walk [name] names ∧ walk = names.map .object
  | type => walk = [type]

/-- What a registry asks for a value type is the one walk. -/
theorem isWalk_iff {family : Family} (hacyclic : ∀ type, family.AcyclicAt type) {type : ValueType}
    (htype : type ≠ .params) {walk : List ValueType} :
    type.IsWalk family walk ↔ walk = HandlerRegistry.candidates family type := by
  cases type with
  | object name =>
      constructor
      · rintro ⟨names, hnames, rfl⟩
        rw [(Family.walk_lineage hacyclic name).unique hnames]
        rfl
      · rintro rfl
        exact ⟨_, Family.walk_lineage hacyclic name, rfl⟩
  | params => exact absurd rfl htype
  | _ => exact Iff.rfl

/-! ## Registries -/

namespace HandlerRegistry

variable {registry : HandlerRegistry} {family : Family} {wire : Option WireType}
  {type : ValueType} {handler : Handler}

/-! ### The search as a recursion -/

theorem findAmong_cons (type : ValueType) (others : List ValueType) :
    registry.findAmong wire (type :: others) =
      ((registry.table type).resolve? wire).or (registry.findAmong wire others) := by
  rw [findAmong, List.findSome?_cons]
  cases (registry.table type).resolve? wire <;> rfl

theorem findAmong_append (types others : List ValueType) :
    registry.findAmong wire (types ++ others) =
      (registry.findAmong wire types).or (registry.findAmong wire others) :=
  List.findSome?_append

/-- Asking several lists in a row is asking each of them in turn. -/
theorem findAmong_flatMap (names : List TypeName) (walkOf : TypeName → List ValueType) :
    registry.findAmong wire (names.flatMap walkOf) =
      names.findSome? fun name => registry.findAmong wire (walkOf name) := by
  induction names with
  | nil => rfl
  | cons name names ih =>
      rw [List.flatMap_cons, findAmong_append, ih, List.findSome?_cons]
      cases registry.findAmong wire (walkOf name) <;> rfl

/-- One step of the search for a handler: the table of the type first and then, for
an object type, what is found for each of its supertypes in turn. The parameter bag
has no handler. -/
def step (registry : HandlerRegistry) (family : Family) (wire : Option WireType)
    (find : ValueType → Option Handler) (type : ValueType) : Option Handler :=
  if type = .params then none
  else ((registry.table type).resolve? wire).or <|
    type.objectName?.bind fun name =>
      (family.shape name).supertypes.findSome? fun parent => find (.object parent)

/-- What a registry finds for a type is one step from what it finds for others. -/
theorem find?_eq_step (hacyclic : ∀ type, family.AcyclicAt type) (type : ValueType) :
    registry.find? family type wire =
      registry.step family wire (fun type => registry.find? family type wire) type := by
  cases type with
  | params => rfl
  | object name =>
      rw [step, if_neg nofun]
      show registry.findAmong wire ((family.lineage name).map .object) = _
      rw [Family.lineage_eq hacyclic, List.map_cons, List.map_flatMap, findAmong_cons,
        findAmong_flatMap]
      rfl
  | _ =>
      rw [step, if_neg nofun]
      exact findAmong_cons _ []

/-- For an object type a step looks at its supertypes only. -/
theorem step_object_congr {find find' : ValueType → Option Handler} {name : TypeName}
    (h : ∀ parent ∈ (family.shape name).supertypes,
      find (.object parent) = find' (.object parent)) :
    registry.step family wire find (.object name) =
      registry.step family wire find' (.object name) := by
  simp only [step, ValueType.objectName?, Option.bind_some]
  rw [← List.head?_filterMap, ← List.head?_filterMap, List.filterMap_congr h]

/-- A search that goes on in these steps finds what the registry finds. -/
theorem eq_find?_of_step (hacyclic : ∀ type, family.AcyclicAt type)
    {find : ValueType → Option Handler}
    (hfind : ∀ type, find type = registry.step family wire find type) (type : ValueType) :
    find type = registry.find? family type wire := by
  cases type with
  | object name =>
      -- the supertypes of a type are of lower rank
      induction hrank : family.rank name using Nat.strongRecOn generalizing name with
      | ind rank ih =>
          have hparents : ∀ parent ∈ (family.shape name).supertypes,
              find (.object parent) = registry.find? family (.object parent) wire := by
            intro parent hparent
            have hlower := Family.rank_lt_of_declares (hacyclic (.object name)) hparent
            exact ih _ (hrank ▸ hlower) parent rfl
          rw [hfind, find?_eq_step hacyclic]
          exact step_object_congr hparents
  | _ =>
      rw [hfind, find?_eq_step hacyclic]
      rfl


/-! ### The nearest type -/

/-- The answer for a wire type on a walk: the handler of the first type that
resolves it, or none if no type does. -/
inductive IsNearest (registry : HandlerRegistry) (wire : Option WireType)
    (walk : List ValueType) : Option Handler → Prop where
  | found {before after : List ValueType} {type : ValueType} {handler : Handler}
      (hwalk : walk = before ++ type :: after)
      (hbefore : ∀ earlier ∈ before, ∀ other, ¬ (registry.table earlier).Resolves wire other)
      (hresolves : (registry.table type).Resolves wire handler)
      (hsame : ∀ other, (registry.table type).Resolves wire other → other.tag = handler.tag) :
      IsNearest registry wire walk (some handler)
  | missing (hwalk : ∀ type ∈ walk, ∀ other, ¬ (registry.table type).Resolves wire other) :
      IsNearest registry wire walk none

/-- A registry finds the answer among the types that it asks. -/
theorem isNearest_findAmong (honce : registry.ListsOnce) (walk : List ValueType) :
    registry.IsNearest wire walk (registry.findAmong wire walk) := by
  rcases hfound : registry.findAmong wire walk with _ | handler
  · refine .missing fun type hmem => ?_
    exact HandlerTable.resolve?_eq_none_iff.mp (List.findSome?_eq_none_iff.mp hfound type hmem)
  · obtain ⟨before, type, after, hwalk, hresolve, hbefore⟩ :=
      List.findSome?_eq_some_iff.mp hfound
    have hresolves := HandlerTable.resolves_of_resolve? hresolve
    exact .found hwalk
      (fun earlier hmem => HandlerTable.resolve?_eq_none_iff.mp (hbefore earlier hmem)) hresolves
      fun other => hresolves.tag_eq (honce type)

theorem has_iff : registry.has family type wire = true ↔
    ∃ asked ∈ candidates family type, ((registry.table asked).resolve? wire).isSome = true := by
  rw [has, find?, findAmong, List.findSome?_isSome_iff]

/-- The handler of a value type is that of the first type that resolves the wire
type on the walk over the type and its supertypes. So subtypes of a type that has a
handler have one, and a type that has one without wire type has one for every wire
type. -/
theorem find?_nearest (hacyclic : ∀ type, family.AcyclicAt type)
    (registrations : List Registration) (wire : Option WireType) :
    (initial.after registrations).find? family .params wire = none ∧
    (∀ type ≠ .params, (∃! walk, type.IsWalk family walk) ∧
      ∀ walk, type.IsWalk family walk → (initial.after registrations).IsNearest wire walk
        ((initial.after registrations).find? family type wire)) ∧
    (∀ type supertype, ReflTransGen family.Declares type supertype →
      (initial.after registrations).has family (.object supertype) wire = true →
        (initial.after registrations).has family (.object type) wire = true) ∧
    (∀ type, (initial.after registrations).has family type none = true →
      (initial.after registrations).has family type wire = true) := by
  refine ⟨rfl, fun type htype => ⟨?_, fun walk hwalk => ?_⟩, fun type supertype hup hhas => ?_,
    fun type hhas => ?_⟩
  · exact ⟨_, (isWalk_iff hacyclic htype).mpr rfl, fun walk => (isWalk_iff hacyclic htype).mp⟩
  · rw [(isWalk_iff hacyclic htype).mp hwalk]
    exact isNearest_findAmong (listsOnce_initial.after registrations) _
  · obtain ⟨asked, hmem, hresolve⟩ := has_iff.mp hhas
    obtain ⟨name, hname, rfl⟩ := List.mem_map.mp hmem
    refine has_iff.mpr ⟨.object name, List.mem_map_of_mem ?_, hresolve⟩
    rw [Family.mem_lineage_iff] at hname ⊢
    exact hup.trans hname
  · obtain ⟨asked, hmem, hresolve⟩ := has_iff.mp hhas
    exact has_iff.mpr ⟨asked, hmem, HandlerTable.isSome_resolve? hresolve⟩

/-! ### A diamond of supertypes -/

/-- Memos are notes and tasks, and both of these are entries. -/
def memos : Family where
  shapes := [
    ("Memo", { supertypes := ["Note", "Task"] }),
    ("Note", { supertypes := ["Entry"] }),
    ("Task", { supertypes := ["Entry"] })]

/-- Notes have two handlers, each for a wire type of its own, tasks have one for a
wire type and entries one for none. -/
def memoRegistrations : List Registration := [
  ⟨.type (.object "Task") (some .integer), .tracing "Task"⟩,
  ⟨.type (.object "Note") (some .varchar), .tracing "Plain"⟩,
  ⟨.type (.object "Note") (some .clob), .tracing "Rich"⟩,
  ⟨.type (.object "Entry") none, .tracing "Entry"⟩]

/-- The table of notes does not resolve a big integer, and what is above notes comes
before tasks. -/
theorem find?_nearest_memos :
    (∀ type, memos.AcyclicAt type) ∧
      (initial.after memoRegistrations).IsNearest (some .bigInt)
        [.object "Memo", .object "Note", .object "Entry", .object "Task", .object "Entry"]
        ((initial.after memoRegistrations).find? memos (.object "Memo") (some .bigInt)) ∧
      ((initial.after memoRegistrations).find? memos (.object "Memo") (some .bigInt)).map
        Handler.name = some "Entry" ∧
      (initial.after memoRegistrations).has memos (.object "Memo") (some .clob) = true := by
  have hacyclic : ∀ type, memos.AcyclicAt type :=
    Family.acyclicAt_of_rank (fun name => ["Entry", "Task", "Note", "Memo"].idxOf name)
      (by decide +kernel)
  have hlineage : memos.lineage "Memo" = ["Memo", "Note", "Entry", "Task", "Entry"] := by
    decide +kernel
  have hwalk := hlineage ▸ Family.walk_lineage hacyclic "Memo"
  have hnote : memos.Declares "Memo" "Note" := by
    show "Note" ∈ (memos.shape "Memo").supertypes
    decide +kernel
  obtain ⟨-, hnearest, -⟩ := find?_nearest hacyclic memoRegistrations (some .bigInt)
  obtain ⟨-, -, hsubtype, -⟩ := find?_nearest hacyclic memoRegistrations (some .clob)
  exact ⟨hacyclic, (hnearest (.object "Memo") (by decide)).2 _ ⟨_, hwalk, rfl⟩, by decide +kernel,
    hsubtype "Memo" "Note" (.single hnote) (by decide +kernel)⟩

end HandlerRegistry

end SqlMapper
