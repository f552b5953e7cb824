import SqlMapper.Proofs.Run
import SqlMapper.Property.Navigation

/-!
# Where a property can be missing

Reading and writing along a path fails in many ways, but that a property is
missing is reported in three places only: a descriptor has no getter or no
setter of that name, or the value is no container at all. Positions in lists,
arguments in bags, conversions, the creation of instances and the resolution
of shapes fail in other ways.

## Main definitions

* `FindsProperties` — the outcome is not that a property is missing.

## Main results

* `FindsProperties.bind`, `FindsProperties.foldlM` — steps that find their
  properties, one after the other.
* `Family.findsProperties_describe` — resolving a shape asks for no property.
* `Reader.findsProperties_invoke`, `Writer.findsProperties_invoke` — an
  accessor that is there finds its property.
* `Value.findsProperties_readIndex` — an element is no property.
-/

namespace SqlMapper

/-- The fault is that a type or a value does not have the property. -/
def Fault.isMissing : Fault → Bool
  | noSuchProperty .. => true
  | _ => false

/-- The outcome is not that a property is missing. -/
def FindsProperties {α : Type} : Except Fault α → Prop
  | .ok _ => True
  | .error fault => fault.isMissing = false

instance {α : Type} (outcome : Except Fault α) : Decidable (FindsProperties outcome) :=
  match outcome with
  | .ok _ => .isTrue trivial
  | .error fault => inferInstanceAs (Decidable (fault.isMissing = false))

namespace FindsProperties

variable {α β : Type}

/-- A step that finds its properties, and then another one. -/
theorem bind {x : Except Fault α} {f : α → Except Fault β} (hx : FindsProperties x)
    (hf : ∀ a, x = .ok a → FindsProperties (f a)) : FindsProperties (x >>= f) := by
  cases x with
  | ok a => exact hf a rfl
  | error fault => exact hx

/-- The same, where what the second step finds does not depend on the first. -/
theorem bind_all {x : Except Fault α} {f : α → Except Fault β} (hx : FindsProperties x)
    (hf : ∀ a, FindsProperties (f a)) : FindsProperties (x >>= f) :=
  hx.bind fun a _ => hf a

theorem foldlM {f : β → α → Except Fault β} (hf : ∀ b a, FindsProperties (f b a)) (as : List α)
    (b : β) : FindsProperties (as.foldlM f b) := by
  induction as generalizing b with
  | nil => trivial
  | cons a as ih =>
      rw [List.foldlM_cons]
      exact (hf b a).bind_all ih

theorem mapM {f : α → Except Fault β} {as : List α} (hf : ∀ a ∈ as, FindsProperties (f a)) :
    FindsProperties (as.mapM f) := by
  rcases h : as.mapM f with fault | bs
  · obtain ⟨a, hmem, ha⟩ := exists_of_mapM_error h
    have hfinds := hf a hmem
    rwa [ha] at hfinds
  · trivial

end FindsProperties

/-! ## Descriptors -/

theorem findsProperties_propertyOfAccessor (method : String) :
    FindsProperties (propertyOfAccessor method) := by
  unfold propertyOfAccessor
  split
  · trivial
  · split <;> trivial

theorem findsProperties_groupByProperty {α : Type} (methods : List (Method α)) :
    FindsProperties (groupByProperty methods) := by
  refine .foldlM (fun groups method => ?_) methods []
  refine (findsProperties_propertyOfAccessor method.name).bind_all fun property => ?_
  split <;> trivial

theorem findsProperties_choose {α : Type}
    {prefer : Method α → Method α → Except Fault (Method α)}
    (hprefer : ∀ current candidate, FindsProperties (prefer current candidate))
    (candidates : List (Method α)) : FindsProperties (choose prefer candidates) := by
  cases candidates with
  | nil => trivial
  | cons first others =>
      exact (FindsProperties.foldlM hprefer others first).bind_all fun _ => trivial

theorem findsProperties_resolveGroups {α : Type}
    {choice : String → List (Method α) → Except Fault (Option (Method α))}
    (hchoice : ∀ property candidates, FindsProperties (choice property candidates))
    (groups : Entries (List (Method α))) : FindsProperties (resolveGroups choice groups) := by
  induction groups with
  | nil => trivial
  | cons group groups ih =>
      refine (hchoice group.1 group.2).bind_all fun chosen => ih.bind_all fun others => ?_
      cases chosen <;> trivial

namespace Family

variable (family : Family) (type : TypeName) (property : String)

theorem findsProperties_preferGetter (current candidate : Method Reader) :
    FindsProperties (preferGetter family type property current candidate) := by
  unfold preferGetter
  repeat' split
  all_goals trivial

theorem findsProperties_preferSetter (current candidate : Method Writer) :
    FindsProperties (preferSetter family type property current candidate) := by
  unfold preferSetter
  repeat' split
  all_goals trivial

theorem findsProperties_chooseSetter (getterType : Option ValueType)
    (candidates : List (Method Writer)) :
    FindsProperties (chooseSetter family type property getterType candidates) := by
  unfold chooseSetter
  split
  · trivial
  · exact findsProperties_choose (family.findsProperties_preferSetter type property) candidates

/-- Resolving a shape asks for no property. -/
theorem findsProperties_describe : FindsProperties (family.describe type) := by
  refine .bind_all ?_ fun getters => .bind_all ?_ fun setters => trivial
  · refine (findsProperties_groupByProperty _).bind_all fun groups => ?_
    exact findsProperties_resolveGroups (fun property candidates =>
      findsProperties_choose (family.findsProperties_preferGetter type property) candidates) groups
  · refine (findsProperties_groupByProperty _).bind_all fun groups => ?_
    exact findsProperties_resolveGroups (fun property candidates =>
      family.findsProperties_chooseSetter type property _ candidates) groups

end Family

theorem Descriptor.findsProperties_instantiate (d : Descriptor) :
    FindsProperties d.instantiate := by
  unfold Descriptor.instantiate
  split <;> trivial

/-! ## Accessors -/

theorem Conversion.findsProperties_apply (conversion : Conversion) (value : Value) :
    FindsProperties (conversion.apply value) := by
  induction conversion generalizing value with
  | any => trivial
  | optional inner ih =>
      cases value with
      | null => trivial
      | _ => exact ih _
  | listOf inner ih =>
      cases value with
      | list items => exact (FindsProperties.mapM fun item _ => ih item).bind_all fun _ => trivial
      | _ => trivial
  | bool | long | double | string | bytes => cases value <;> trivial
  | int | instanceOf =>
      cases value <;> unfold apply <;> dsimp only <;> try split
      all_goals trivial

/-- A getter that is there finds the property, though maybe not on an instance
of another type. -/
theorem Reader.findsProperties_invoke (reader : Reader) (type : TypeName) (slots : Slots) :
    FindsProperties (reader.invoke type slots) := by
  unfold Reader.invoke
  split <;> trivial

theorem Writer.findsProperties_invoke (writer : Writer) (type : TypeName) (slots : Slots)
    (value : Value) : FindsProperties (writer.invoke type slots value) := by
  refine (writer.conversion.findsProperties_apply value).bind_all fun taken => ?_
  split <;> trivial

/-! ## Elements of containers -/

theorem findsProperties_listPosition (index : String) (length : Nat) :
    FindsProperties (listPosition index length) := by
  unfold listPosition
  split
  · trivial
  · split <;> trivial

theorem Bag.findsProperties_get (bag : Bag) (name : String) : FindsProperties (bag.get name) := by
  unfold Bag.get
  split <;> trivial

/-- An element is no property, whatever it is read from. -/
theorem Value.findsProperties_readIndex (collection : Value) (index : String) :
    FindsProperties (collection.readIndex index) := by
  cases collection with
  | list items => exact (findsProperties_listPosition index items.length).bind_all fun _ => trivial
  | params entries => exact Bag.findsProperties_get entries index
  | _ => trivial

end SqlMapper
