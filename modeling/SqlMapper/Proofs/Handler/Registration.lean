import SqlMapper.Proofs.Handler.Tables

/-!
# Registering handlers in any order

A registry answers from what was registered last under each key, and a key is a
value type with or without a wire type, a wire type alone, or a name. Two keys
never get into each other's way, so that the order of registrations under
different keys is lost, and so is everything under a key but the last. It shows
nowhere in the answers, as a table resolves by what it has under each key.

## Main definitions

* `HandlerKey`, `HandlerRegistry.Registration`, `HandlerRegistry.after` — what a
  handler is registered for, registrations, and the registry after some of them.
* `HandlerRegistry.handlerFor?`, `HandlerRegistry.lastFor` — the handler that a
  registry has under a key, and the one that registrations leave there.
* `HandlerRegistry.AnswersAlike` — registries that give the same answers.

## Main results

* `HandlerRegistry.handlerFor?_run`, `HandlerRegistry.handlerFor?_after` — what a
  registration changes, and that the last one under a key decides.
* `HandlerRegistry.answersAlike_after` — the order of registrations is lost, and so
  are those under the key of a later one.
-/

namespace SqlMapper

/-! ## Registrations -/

/-- What a handler is registered for. -/
inductive HandlerKey where
  | type (type : ValueType) (wire : Option WireType)
  | wire (wire : WireType)
  | name (name : String)
  deriving DecidableEq

namespace HandlerRegistry

variable {registry other : HandlerRegistry} {key : HandlerKey} {handler : Handler}

/-- A handler, and what it is registered for. -/
structure Registration where
  key : HandlerKey
  handler : Handler

/-- Registers the handler. -/
def Registration.run (registry : HandlerRegistry) (registration : Registration) :
    HandlerRegistry :=
  match registration.key with
  | .type type wire => registry.register type wire registration.handler
  | .wire wire => registry.registerWire wire registration.handler
  | .name name => registry.registerNamed name registration.handler

/-- The registry after the registrations in turn. -/
def after (registry : HandlerRegistry) (registrations : List Registration) : HandlerRegistry :=
  registrations.foldl Registration.run registry

theorem after_append (registry : HandlerRegistry) (earlier later : List Registration) :
    registry.after (earlier ++ later) = (registry.after earlier).after later :=
  List.foldl_append

/-- What the registrations keep, each in turn, their run keeps. -/
theorem after_induction {P : HandlerRegistry → Prop} {registrations : List Registration}
    (h : P registry)
    (hrun : ∀ registry, P registry → ∀ registration ∈ registrations,
      P (registration.run registry)) :
    P (registry.after registrations) :=
  List.foldlRecOn registrations _ h fun registry h registration hmem =>
    hrun registry h registration hmem

theorem All.after {P : Handler → Prop} {registrations : List Registration} (h : registry.All P)
    (hhandlers : ∀ registration ∈ registrations, P registration.handler) :
    (registry.after registrations).All P := by
  refine after_induction h fun registry h registration hmem => ?_
  have hhandler := hhandlers registration hmem
  unfold Registration.run
  split
  · exact h.register hhandler _ _
  · exact h.registerWire hhandler _
  · exact h.registerNamed hhandler _

/-! ### The registrations of the initial registry -/

/-- The registrations of a scalar type. -/
def scalarRegistrations (type : ValueType) (handler : Handler) (wires : List WireType) :
    List Registration :=
  ⟨.type type none, handler⟩ ::
    wires.flatMap (fun wire => [⟨.type type (some wire), handler⟩, ⟨.wire wire, handler⟩]) ++
    [⟨.name handler.name, handler⟩]

/-- The registrations of the built-in handlers. -/
def builtInRegistrations : List Registration :=
  scalars.flatMap (fun entry => scalarRegistrations entry.1 entry.2.1 entry.2.2) ++
    [⟨.type .any none, .unknown⟩, ⟨.wire .other, .unknown⟩, ⟨.name Handler.unknownName, .unknown⟩]

/-- A registry starts with the registrations of the built-in handlers. -/
theorem initial_eq_after : initial = ({} : HandlerRegistry).after builtInRegistrations := rfl

/-! ### What a registration changes -/

theorem table_setTable {tables : List (ValueType × HandlerTable)} {type type' : ValueType}
    {table : HandlerTable} :
    (((setTable type table tables).find? fun entry => entry.1 = type').map Prod.snd).getD [] =
      if type = type' then table
      else ((tables.find? fun entry => entry.1 = type').map Prod.snd).getD [] := by
  induction tables with
  | nil => by_cases h : type = type' <;> simp [setTable, h]
  | cons entry tables ih =>
      obtain ⟨t, old⟩ := entry
      rw [setTable]
      by_cases ht : t = type
      · subst ht
        by_cases h : t = type' <;> simp [h]
      · rw [if_neg ht, List.find?_cons, List.find?_cons]
        by_cases h : t = type'
        · subst h
          simp [Ne.symm ht]
        · simpa [h] using ih

/-- A registration changes the table of its type and no other. -/
theorem table_register {type type' : ValueType} {wire : Option WireType} :
    (registry.register type wire handler).table type' =
      if type = type' then (registry.table type).set wire handler else registry.table type' :=
  table_setTable

/-- The handler that is registered under the key. -/
def handlerFor? (registry : HandlerRegistry) : HandlerKey → Option Handler
  | .type type wire => (registry.table type).get? wire
  | .wire wire => registry.findWire? wire
  | .name name => registry.findNamed? name

theorem findWire?_registerWire {wire wire' : WireType} :
    (registry.registerWire wire handler).findWire? wire' =
      if wire = wire' then some handler else registry.findWire? wire' := by
  unfold findWire? registerWire
  dsimp only
  rw [List.find?_cons]
  by_cases h : wire = wire'
  · simp [h]
  · have hkept : ((registry.byWire.filter fun entry => entry.1 ≠ wire).find? fun entry =>
        entry.1 = wire') = registry.byWire.find? fun entry => entry.1 = wire' := by
      rw [List.find?_filter]
      congr 1
      funext entry
      by_cases hentry : entry.1 = wire' <;> simp [hentry, Ne.symm h]
    rw [hkept, decide_eq_false h, if_neg h]

/-- A registration changes what is under its key and nothing else. -/
theorem handlerFor?_run {registration : Registration} :
    (registration.run registry).handlerFor? key =
      if registration.key = key then some registration.handler else registry.handlerFor? key := by
  obtain ⟨target, handler⟩ := registration
  cases target with
  | type type wire =>
      cases key with
      | type type' wire' =>
          show ((registry.register type wire handler).table type').get? wire' = _
          rw [table_register]
          by_cases htype : type = type'
          · subst htype
            simp [HandlerTable.get?_set, handlerFor?]
          · simp [htype, handlerFor?]
      | wire wire' => exact (if_neg nofun).symm
      | name name' => exact (if_neg nofun).symm
  | wire wire =>
      cases key with
      | type type' wire' => exact (if_neg nofun).symm
      | wire wire' =>
          show (registry.registerWire wire handler).findWire? wire' = _
          simp [findWire?_registerWire, handlerFor?]
      | name name' => exact (if_neg nofun).symm
  | name name =>
      cases key with
      | type type' wire' => exact (if_neg nofun).symm
      | wire wire' => exact (if_neg nofun).symm
      | name name' =>
          show (registry.byName.put name handler).find? name' = _
          simp [Entries.find?_put, handlerFor?, findNamed?]

/-! ### What registrations leave -/

/-- The handler of the last registration under the key. -/
def lastFor (key : HandlerKey) : List Registration → Option Handler
  | [] => none
  | registration :: later =>
      (lastFor key later).or (if registration.key = key then some registration.handler else none)

/-- The last registration under a key decides, and without one what was there. -/
theorem handlerFor?_after (registrations : List Registration) :
    (registry.after registrations).handlerFor? key =
      (lastFor key registrations).or (registry.handlerFor? key) := by
  induction registrations generalizing registry with
  | nil => rfl
  | cons registration later ih =>
      show ((registration.run registry).after later).handlerFor? key = _
      rw [ih, handlerFor?_run, lastFor, Option.or_assoc]
      split <;> rfl

theorem lastFor_append (earlier later : List Registration) :
    lastFor key (earlier ++ later) = (lastFor key later).or (lastFor key earlier) := by
  induction earlier with
  | nil => exact (Option.or_none).symm
  | cons registration earlier ih => rw [List.cons_append, lastFor, lastFor, ih, Option.or_assoc]

theorem exists_of_lastFor {registrations : List Registration}
    (h : lastFor key registrations = some handler) : ⟨key, handler⟩ ∈ registrations := by
  induction registrations with
  | nil => cases h
  | cons registration later ih =>
      rcases Option.or_eq_some_iff.mp h with hlater | ⟨-, hfirst⟩
      · exact List.mem_cons_of_mem _ (ih hlater)
      · split at hfirst
        · next hkey =>
            obtain rfl := Option.some.inj hfirst
            subst hkey
            exact List.mem_cons_self
        · cases hfirst

/-- Under different keys every registration is the last one. -/
theorem lastFor_eq_some_iff {registrations : List Registration}
    (hkeys : (registrations.map Registration.key).Nodup) :
    lastFor key registrations = some handler ↔ ⟨key, handler⟩ ∈ registrations := by
  refine ⟨exists_of_lastFor, fun hmem => ?_⟩
  obtain ⟨earlier, later, rfl⟩ := List.append_of_mem hmem
  rw [List.map_append, List.map_cons, List.nodup_middle, List.nodup_cons] at hkeys
  have hlater : lastFor key later = none := by
    rcases hfound : lastFor key later with _ | found
    · rfl
    · refine absurd ?_ hkeys.1
      exact List.mem_append_right _ (List.mem_map.mpr ⟨_, exists_of_lastFor hfound, rfl⟩)
  rw [lastFor_append, lastFor, hlater, if_pos rfl]
  rfl

/-- Under different keys the order of registrations is lost. -/
theorem lastFor_perm {registrations reordered : List Registration}
    (hperm : reordered.Perm registrations)
    (hkeys : (registrations.map Registration.key).Nodup) :
    lastFor key reordered = lastFor key registrations := by
  refine Option.ext fun handler => ?_
  rw [lastFor_eq_some_iff hkeys, lastFor_eq_some_iff ((hperm.map _).nodup_iff.mpr hkeys),
    hperm.mem_iff]

/-- A registration is lost behind a later one under its key. -/
theorem lastFor_superseded {earlier last : Registration} (h : earlier.key = last.key)
    (before between behind : List Registration) :
    lastFor key (before ++ earlier :: (between ++ last :: behind)) =
      lastFor key (before ++ (between ++ last :: behind)) := by
  simp only [lastFor_append, lastFor, h]
  by_cases hkey : last.key = key <;> simp [hkey, Option.or_assoc]

/-! ## Answers -/

/-- The two registries give the same answers to every question. -/
structure AnswersAlike (registry other : HandlerRegistry) : Prop where
  find? : ∀ family type wire, registry.find? family type wire = other.find? family type wire
  has : ∀ family type wire, registry.has family type wire = other.has family type wire
  findWire? : ∀ wire, registry.findWire? wire = other.findWire? wire
  findNamed? : ∀ name, registry.findNamed? name = other.findNamed? name

/-- No table lists a wire type twice. -/
def ListsOnce (registry : HandlerRegistry) : Prop := ∀ type, (registry.table type).wires.Nodup

theorem ListsOnce.after (h : registry.ListsOnce) (registrations : List Registration) :
    (registry.after registrations).ListsOnce := by
  refine after_induction h fun registry h registration _ type' => ?_
  unfold Registration.run
  split
  · rw [table_register]
    split
    · exact HandlerTable.nodup_wires_set (h _)
    · exact h type'
  · exact h type'
  · exact h type'

theorem listsOnce_initial : initial.ListsOnce := by
  rw [initial_eq_after]
  have hempty : ({} : HandlerRegistry).ListsOnce := fun _ => List.nodup_nil (α := Option WireType)
  exact hempty.after builtInRegistrations

/-- Registries with the same handler under each key give the same answers. -/
theorem answersAlike_of_handlerFor? {handlers : List Handler} (hids : Handler.Identified handlers)
    (hall : registry.All (· ∈ handlers)) (hall' : other.All (· ∈ handlers))
    (honce : registry.ListsOnce) (honce' : other.ListsOnce)
    (hsame : ∀ key, registry.handlerFor? key = other.handlerFor? key) :
    registry.AnswersAlike other := by
  have hresolve (type : ValueType) (wire : Option WireType) :
      (registry.table type).resolve? wire = (other.table type).resolve? wire := by
    have hsubset {registry : HandlerRegistry} (hall : registry.All (· ∈ handlers)) :
        (registry.table type).handlers ⊆ handlers := by
      intro handler hmem
      obtain ⟨entry, hentry, rfl⟩ := List.mem_map.mp hmem
      exact hall.table type entry hentry
    exact HandlerTable.resolve?_congr (honce type) (honce' type) (hids.subset (hsubset hall))
      (hids.subset (hsubset hall')) fun wire => hsame (.type type wire)
  have hfind (family : Family) (type : ValueType) (wire : Option WireType) :
      registry.find? family type wire = other.find? family type wire := by
    unfold HandlerRegistry.find? findAmong
    exact congrArg (List.findSome? · _) (funext fun type => hresolve type wire)
  exact ⟨hfind, fun family type wire => congrArg Option.isSome (hfind family type wire),
    fun wire => hsame (.wire wire), fun name => hsame (.name name)⟩

/-- Registrations under different keys give the same answers in any order, and
without a registration under the key of a later one the answers stay the same. -/
theorem answersAlike_after (history registrations : List Registration)
    (hids : Handler.Identified
      (Handler.builtIns ++ (history ++ registrations).map Registration.handler)) :
    ((registrations.map Registration.key).Nodup → ∀ reordered, reordered.Perm registrations →
      ((initial.after history).after reordered).AnswersAlike
        ((initial.after history).after registrations)) ∧
    (∀ before earlier between last behind,
      registrations = before ++ earlier :: (between ++ last :: behind) → earlier.key = last.key →
        ((initial.after history).after registrations).AnswersAlike
          ((initial.after history).after (before ++ (between ++ last :: behind)))) := by
  have hknown {others : List Registration} (hothers : others ⊆ registrations) :
      ((initial.after history).after others).All (· ∈ Handler.builtIns ++
        (history ++ registrations).map Registration.handler) := by
    rw [← after_append]
    refine (all_initial_of fun handler => List.mem_append_left _).after fun registration hmem => ?_
    have hregistered : registration ∈ history ++ registrations :=
      (List.mem_append.mp hmem).elim (List.mem_append_left _)
        fun hmem => List.mem_append_right _ (hothers hmem)
    exact List.mem_append_right _ (List.mem_map_of_mem hregistered)
  have halike {others others' : List Registration} (hothers : others ⊆ registrations)
      (hothers' : others' ⊆ registrations)
      (hlast : ∀ key, lastFor key others = lastFor key others') :
      ((initial.after history).after others).AnswersAlike
        ((initial.after history).after others') := by
    have honce := listsOnce_initial.after history
    refine answersAlike_of_handlerFor? hids (hknown hothers) (hknown hothers') (honce.after _)
      (honce.after _) fun key => ?_
    rw [handlerFor?_after others, handlerFor?_after others', hlast]
  constructor
  · intro hkeys reordered hperm
    exact halike hperm.subset (List.Subset.refl _) fun key => lastFor_perm hperm hkeys
  · rintro before earlier between last behind rfl hkey
    refine halike (List.Subset.refl _) ?_ fun key => lastFor_superseded hkey before between behind
    exact List.append_subset.mpr ⟨List.subset_append_left _ _,
      List.subset_append_of_subset_right _ (List.subset_cons_self _ _)⟩

/-- Notes with one handler for two wire types, which is therefore the one for all
of them. -/
def noteRegistrations : List Registration := [
  ⟨.type (.object "Note") (some .varchar), .tracing "Plain"⟩,
  ⟨.type (.object "Note") (some .clob), .tracing "Plain"⟩,
  ⟨.wire .clob, .tracing "Rich"⟩,
  ⟨.name "Plain", .tracing "Plain"⟩]

/-- Notes have that handler for every wire type whatever the order of the
registrations, and whatever was registered under one of the two wire types
before. -/
theorem answersAlike_after_notes :
    let rich : Registration := ⟨.type (.object "Note") (some .clob), .tracing "Rich"⟩
    (initial.after noteRegistrations.reverse).AnswersAlike (initial.after noteRegistrations) ∧
      (initial.after (rich :: noteRegistrations)).AnswersAlike (initial.after noteRegistrations) ∧
      ((initial.after noteRegistrations).find? {} (.object "Note") (some .bigInt)).map
        Handler.name = some "Plain" := by
  intro rich
  have hids : Handler.Identified (Handler.builtIns ++ [.tracing "Plain", .tracing "Rich"]) :=
    Handler.identified_of_nodup (by decide +kernel)
  refine ⟨?_, ?_, by decide +kernel⟩
  · refine (answersAlike_after [] noteRegistrations (hids.subset ?_)).1 (by decide) _
      (List.reverse_perm _)
    simp [noteRegistrations]
  · refine (answersAlike_after [] (rich :: noteRegistrations) (hids.subset ?_)).2 [] rich
      [⟨.type (.object "Note") (some .varchar), .tracing "Plain"⟩] _ _ rfl rfl
    simp [noteRegistrations, rich]

end HandlerRegistry

end SqlMapper
