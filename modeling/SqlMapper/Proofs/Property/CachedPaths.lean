import SqlMapper.Property.Cached
import SqlMapper.Proofs.Property.Caching

/-!
# The cache changes no answer

That a cache keeps nothing but what a build gives is all that one has to know about it:
each demand for a descriptor answers as a build does and leaves a cache of which the
same holds. So a computation that does nothing else with the cache answers as it does
without one, step by step: questions about paths, reads along them, and writes, also
where they end in a fault on the way.

## Main definitions

* `DescriptorCache.Answers`, `DescriptorCache.Edits` — a computation that asks the
  cache answers like one that does not.
* `DescriptorCache.after` — the cache that requests leave.

## Main results

* `DescriptorCache.Answers.bind`, `DescriptorCache.Edits.bind` — one step after the
  other.
* `DescriptorCache.answers_ask` — requests.
* `DescriptorCache.transparent` — the cache changes no answer.
-/

namespace SqlMapper.DescriptorCache

variable {family : Family}

/-! ## Computations that ask the cache -/

section Answers

variable {α β : Type}

/-- From every cache that keeps nothing but what a build gives, the computation
answers so, and it leaves such a cache. -/
def Answers (family : Family) (x : StateM DescriptorCache α) (answer : α) : Prop :=
  ∀ cache : DescriptorCache, cache.Faithful family →
    (x.run cache).1 = answer ∧ (x.run cache).2.Faithful family

theorem answers_pure (a : α) : Answers family (pure a) a := fun _ h => ⟨rfl, h⟩

theorem Answers.bind {x : StateM DescriptorCache α} {f : α → StateM DescriptorCache β} {a : α}
    {b : β} (hx : Answers family x a) (hf : Answers family (f a) b) :
    Answers family (x >>= f) b := by
  intro cache h
  obtain ⟨hanswer, hleft⟩ := hx cache h
  have hrest := hf (x.run cache).2 hleft
  rwa [← hanswer] at hrest

/-- A step that fails ends the computation, with the cache or without it. -/
theorem Answers.bind_cached {x : Cached α} {f : α → Cached β} {outcome : Except Fault α}
    {g : α → Except Fault β} (hx : Answers family x.run outcome)
    (hf : ∀ a, Answers family (f a).run (g a)) : Answers family (x >>= f).run (outcome >>= g) := by
  show Answers family (x.run >>= ExceptT.bindCont f) (outcome >>= g)
  refine hx.bind ?_
  rcases outcome with fault | a
  · exact answers_pure _
  · exact hf a

theorem answers_lift (outcome : Except Fault α) :
    Answers family (liftM outcome : Cached α).run outcome :=
  answers_pure outcome

end Answers

/-! ## Questions about paths -/

section Questions

/-- Through the cache a descriptor is what the demand gives. -/
theorem run_descriptor (family : Family) (type : TypeName) (cache : DescriptorCache) :
    (Cached.descriptor family type).run.run cache =
      (((describe family type).run cache).1.map BuiltDescriptor.descriptor,
        ((describe family type).run cache).2) := by
  show ((describe family type >>= fun built => pure built.descriptor :
    Stateful DescriptorCache Descriptor).run cache) = _
  rw [run_bind]
  rcases (describe family type).run cache with ⟨_ | built, cache'⟩ <;> rfl

theorem answers_descriptor (type : TypeName) :
    Answers family (Cached.descriptor family type).run (family.describe type) := by
  intro cache h
  rw [run_descriptor]
  exact ⟨h.describe_eq type, h.describe type⟩

theorem answers_step (d : Descriptor) (segment : Segment) :
    Answers family (Cached.step family d segment).run (d.step family.describe segment) := by
  refine (answers_lift _).bind_cached fun type => ?_
  cases type with
  | object name => exact answers_descriptor name
  | _ => exact answers_pure _

theorem answers_readType (d : Descriptor) (segment : Segment) (rest : List Segment) :
    Answers family (Cached.readType family d segment rest).run
      (d.readType family.describe segment rest) := by
  induction rest generalizing d segment with
  | nil => exact answers_lift _
  | cons next rest ih => exact (answers_step d segment).bind_cached fun child => ih child next

theorem answers_writeType (d : Descriptor) (segment : Segment) (rest : List Segment) :
    Answers family (Cached.writeType family d segment rest).run
      (d.writeType family.describe segment rest) := by
  induction rest generalizing d segment with
  | nil => exact answers_lift _
  | cons next rest ih => exact (answers_step d segment).bind_cached fun child => ih child next

/-- What is asked only if something else holds. -/
theorem answers_and {holds answer : Bool} {x : StateM DescriptorCache Bool}
    (hx : Answers family x answer) :
    Answers family (if holds then x else return false) (holds && answer) := by
  rcases holds with _ | _
  · exact answers_pure _
  · exact hx

theorem answers_canRead (d : Descriptor) (segment : Segment) (rest : List Segment) :
    Answers family (Cached.canRead family d segment rest)
      (d.canRead family.describe segment rest) := by
  induction rest generalizing d segment with
  | nil => exact answers_pure _
  | cons next rest ih =>
      refine answers_and ((answers_step d segment).bind ?_)
      rcases d.step family.describe segment with _ | child
      · exact answers_pure _
      · exact ih child next

theorem answers_canWrite (d : Descriptor) (segment : Segment) (rest : List Segment) :
    Answers family (Cached.canWrite family d segment rest)
      (d.canWrite family.describe segment rest) := by
  induction rest generalizing d segment with
  | nil => exact answers_pure _
  | cons next rest ih =>
      refine answers_and ((answers_step d segment).bind ?_)
      rcases d.step family.describe segment with _ | child
      · exact answers_pure _
      · exact ih child next

theorem answers_findSegments (d : Descriptor) (segment : Segment) (rest : List Segment) :
    Answers family (Cached.findSegments family d segment rest)
      (d.findSegments family.describe segment rest) := by
  induction rest generalizing d segment with
  | nil => exact answers_pure _
  | cons next rest ih =>
      rw [Cached.findSegments, Descriptor.findSegments]
      rcases d.findName segment.name with _ | property
      · exact answers_pure _
      · dsimp only [Option.bind_eq_bind, Option.bind_some]
        rcases d.getterType property with _ | type
        · exact answers_pure _
        · cases type with
          | object name =>
              dsimp only
              refine (answers_descriptor name).bind ?_
              rcases family.describe name with _ | child
              · exact answers_pure _
              · dsimp only
                refine (ih child next).bind ?_
                rcases child.findSegments family.describe next rest with _ | properties <;>
                  exact answers_pure _
          | _ => exact answers_pure _

theorem answers_findPath (d : Descriptor) (name : String) (bare : Bool) :
    Answers family (Cached.findPath family d name bare) (d.findPath family.describe name bare) := by
  refine (answers_findSegments d _ _).bind ?_
  exact answers_pure _

end Questions

/-! ## Reads -/

section Reads

theorem answers_readProperty (target : Value) (name : String) :
    Answers family (Cached.readProperty family target name).run
      (target.readProperty family.describe name) := by
  cases target with
  | object type slots =>
      refine (answers_descriptor type).bind_cached fun d => ?_
      exact (answers_lift _).bind_cached fun _ => answers_lift _
  | params entries => exact answers_lift _
  | _ => exact answers_pure _

theorem answers_readSegment (target : Value) (segment : Segment) :
    Answers family (Cached.readSegment family target segment).run
      (target.readSegment family.describe segment) := by
  unfold Cached.readSegment Value.readSegment
  by_cases hnull : target.isNull
  · rw [if_pos hnull, if_pos hnull]
    exact answers_pure _
  · rw [if_neg hnull, if_neg hnull]
    rcases segment.index with _ | index
    · exact answers_readProperty target segment.name
    · dsimp only
      by_cases hname : segment.name.isEmpty
      · rw [if_pos hname, if_pos hname]
        exact answers_lift _
      · rw [if_neg hname, if_neg hname]
        exact (answers_readProperty target segment.name).bind_cached fun _ => answers_lift _

theorem answers_readPath (root : Value) (path : String) :
    Answers family (Cached.readPath family root path).run (root.readPath family.describe path) := by
  unfold Cached.readPath Value.readPath Value.readSegments
  induction (Path.ofString path).segments generalizing root with
  | nil => exact answers_pure _
  | cons segment segments ih =>
      rw [List.foldlM_cons, List.foldlM_cons]
      exact (answers_readSegment root segment).bind_cached ih

theorem answers_freshValue (type : ValueType) (seg : Segment) :
    Answers family (Cached.freshValue family type seg).run
      (Edit.freshValue family.describe type seg) := by
  cases type with
  | object name => exact (answers_descriptor name).bind_cached fun _ => answers_lift _
  | _ => exact answers_pure _

theorem answers_freshSegment (parent : Value) (seg : Segment) :
    Answers family (Cached.freshSegment family parent seg).run
      (Edit.freshSegment family.describe parent seg) := by
  cases parent with
  | object type slots =>
      refine (answers_descriptor type).bind_cached fun d => ?_
      exact (answers_lift _).bind_cached fun _ => answers_freshValue _ seg
  | _ => exact answers_freshValue .map seg

end Reads

/-! ## Writes -/

section Writes

variable {α β : Type}

/-- Changing a value with the help of the cache answers and leaves the value as the
change does. -/
def Edits (family : Family) (x : CachedEdit α) (edit : Edit α) : Prop :=
  ∀ root, Answers family (x.run.run root) (edit.run.run root)

theorem edits_pure (a : α) : Edits family (pure a) (pure a) := fun _ => answers_pure _

theorem edits_throw (fault : Fault) : Edits family (throw fault : CachedEdit α) (throw fault) :=
  fun _ => answers_pure _

theorem edits_get : Edits family get get := fun _ => answers_pure _

theorem edits_set (root : Value) : Edits family (set root) (set root) := fun _ => answers_pure _

theorem edits_lift (outcome : Except Fault α) :
    Edits family (liftM outcome : CachedEdit α) (liftM outcome) := fun _ => answers_pure _

theorem edits_plain (edit : Edit α) : Edits family (CachedEdit.plain edit) edit :=
  fun _ => answers_pure _

theorem edits_asking {x : Cached α} {outcome : Except Fault α} (hx : Answers family x.run outcome) :
    Edits family (CachedEdit.asking x) (liftM outcome) := by
  intro root
  exact hx.bind (answers_pure _)

/-- A change in two steps goes on from the value that the first one left, unless that
one failed. -/
theorem run_bind_edit (x : CachedEdit α) (f : α → CachedEdit β) (root : Value) :
    (x >>= f).run.run root =
      x.run.run root >>= fun
        | (.ok a, left) => (f a).run.run left
        | (.error fault, left) => pure (.error fault, left) := by
  show (x.run.run root >>= fun step => (ExceptT.bindCont f step.1).run step.2) = _
  refine congrArg (x.run.run root >>= ·) (funext fun step => ?_)
  rcases step with ⟨_ | a, left⟩ <;> rfl

/-- One step after the other. -/
theorem Edits.bind {x : CachedEdit α} {f : α → CachedEdit β} {edit : Edit α} {g : α → Edit β}
    (hx : Edits family x edit) (hf : ∀ a, Edits family (f a) (g a)) :
    Edits family (x >>= f) (edit >>= g) := by
  intro root
  rw [run_bind_edit]
  refine (hx root).bind ?_
  rcases hedit : edit.run.run root with ⟨fault | a, left⟩
  · rw [show (edit >>= g).run.run root = _ from run_bind_of_error hedit]
    exact answers_pure _
  · rw [show (edit >>= g).run.run root = _ from run_bind_of_ok hedit]
    exact hf a left

theorem edits_onCopy {x : CachedEdit Unit} {edit : Edit Unit} (hx : Edits family x edit)
    (copy : Value) : Edits family (CachedEdit.onCopy copy x) (Edit.onCopy copy edit) := by
  intro root
  refine (hx copy).bind ?_
  unfold Edit.onCopy
  rcases hedit : edit.run.run copy with ⟨_ | _, changed⟩ <;>
    rw [show edit.applyTo copy = _ from hedit] <;>
    exact answers_pure _

theorem edits_property (name : String) (value : Value) :
    Edits family (CachedEdit.property family name value)
      (Edit.property family.describe name value) := by
  refine edits_get.bind fun root => ?_
  cases root with
  | object type slots =>
      refine Edits.bind (edits_asking ?_) fun setter => ?_
      · exact (answers_descriptor type).bind_cached fun d => answers_lift _
      · exact (edits_lift _).bind fun changed => edits_set _
  | map entries => exact edits_set _
  | params entries => exact edits_set _
  | _ => exact edits_throw _

theorem edits_segment (seg : Segment) (value : Value) :
    Edits family (CachedEdit.segment family seg value)
      (Edit.segment family.describe seg value) := by
  unfold CachedEdit.segment Edit.segment
  rcases seg.index with _ | index
  · exact edits_property seg.name value
  · dsimp only
    by_cases hname : seg.name.isEmpty
    · rw [if_pos hname, if_pos hname]
      exact edits_plain _
    · rw [if_neg hname, if_neg hname]
      refine edits_get.bind fun root => ?_
      refine (edits_asking (answers_readProperty root seg.name)).bind fun collection => ?_
      exact (edits_plain _).bind fun changed => edits_property seg.name changed

/-- Writing along the segments: what is read and created on the way, and the copies that
are changed and stored back. -/
theorem edits_segments (value : Value) (seg : Segment) (rest : List Segment) :
    Edits family (CachedEdit.segments family value seg rest)
      (Edit.segments family.describe value seg rest) := by
  induction rest generalizing seg with
  | nil => exact edits_segment seg value
  | cons next rest ih =>
      refine edits_get.bind fun root => ?_
      refine (edits_asking (answers_readSegment root seg)).bind fun head => ?_
      by_cases hnull : head.isNull && value.isNull
      · rw [if_pos hnull, if_pos hnull]
        exact edits_pure _
      · rw [if_neg hnull, if_neg hnull]
        have hrest (head : Value) :=
          (edits_onCopy (ih next) head).bind (edits_segment seg)
        dsimp only
        by_cases habsent : head.isNull
        · rw [if_pos habsent, if_pos habsent]
          exact (edits_asking (answers_freshSegment root seg)).bind hrest
        · rw [if_neg habsent, if_neg habsent]
          exact (edits_pure head).bind hrest

end Writes

/-! ## Requests -/

/-- A request is answered through the cache as by descriptors that are built. -/
theorem answers_ask (request : PropertyRequest) :
    Answers family (request.ask family) (request.answer family.describe) := by
  cases request with
  | describe type => exact (answers_descriptor type).bind (answers_pure _)
  | readType d path => exact (answers_readType d _ _).bind (answers_pure _)
  | writeType d path => exact (answers_writeType d _ _).bind (answers_pure _)
  | canRead d path => exact (answers_canRead d _ _).bind (answers_pure _)
  | canWrite d path => exact (answers_canWrite d _ _).bind (answers_pure _)
  | findPath d name bare => exact (answers_findPath d name bare).bind (answers_pure _)
  | get root path => exact (answers_readPath root path).bind (answers_pure _)
  | set root path value => exact (edits_segments value _ _ root).bind (answers_pure _)

/-- The cache that requests leave, one after the other, if it was empty at first. -/
def after (family : Family) (history : List PropertyRequest) : DescriptorCache :=
  history.foldl (fun cache request => ((request.ask family).run cache).2) {}

theorem faithful_after (family : Family) (history : List PropertyRequest) :
    (after family history).Faithful family :=
  List.foldlRecOn history _ (faithful_empty family) fun cache h request _ =>
    (answers_ask request cache h).2

/-- The cache changes no answer. Demands for descriptors answer as builds do, and the
same type gets the same instance; and whatever was asked before, every request is
answered as from an empty cache, namely as by descriptors that are built. -/
theorem transparent (family : Family) :
    (∀ types, Describes family types ((describeAll family types).run {}).1
      ((describeAll family types).run {}).2) ∧
    ∀ (history : List PropertyRequest) (request : PropertyRequest),
      ((request.ask family).run (after family history)).1 = ((request.ask family).run {}).1 ∧
        ((request.ask family).run {}).1 = request.answer family.describe := by
  refine ⟨describes_describeAll family, fun history request => ?_⟩
  obtain ⟨hempty, -⟩ := answers_ask request {} (faithful_empty family)
  obtain ⟨hlater, -⟩ := answers_ask request (after family history) (faithful_after family history)
  exact ⟨hlater.trans hempty.symm, hempty⟩

end SqlMapper.DescriptorCache
