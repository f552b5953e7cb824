import SqlMapper.Property.AccessorName
import SqlMapper.Property.Shape

/-!
# Descriptors: the resolved properties of an object type

A descriptor gives every exposed property one way of reading it and one way
of writing it. Accessor methods come before fields.

* Among the getters of a property the one with the narrowest type is chosen;
  of two boolean ones, the one named `is…`.
* Among the setters, the first whose type is the type of the property's
  getter method; without one, the one with the narrowest type.
* Methods that cannot be ordered are a fault.
* Fields fill what methods leave open, the first field of a name first.
* Names that start with `$` and the name `class` are not exposed.

## Main definitions

* `Descriptor`, `Family.describe` — the type and its construction.
* `Descriptor.findName` — the property meant by a name in any case.
-/

namespace SqlMapper

/-! ## The type -/

/-- Where an accessor comes from. -/
inductive Strategy where
  | field
  | method
  deriving DecidableEq, Repr

/-- The chosen way of reading or writing a property. -/
structure Accessor (α : Type) where
  strategy : Strategy
  /-- The field or method that it comes from. -/
  member : String
  type : ValueType
  call : α

/-- The resolved properties of one object type, in order of declaration. -/
structure Descriptor where
  type : TypeName
  constructor : Option Slots
  getters : Entries (Accessor Reader)
  setters : Entries (Accessor Writer)
  /-- The property that each upper-case name stands for. -/
  index : Entries String

/-- The accessor of a method. -/
def Method.accessor {α : Type} (method : Method α) : Accessor α :=
  { strategy := .method, member := method.name, type := method.type, call := method.call }

/-- The name may be exposed. -/
def isExposedName (name : String) : Bool :=
  !Text.startsWith ['$'] name.toList && name != "class"

/-! ## Accessor methods -/

/-- Adds a method to the candidates of its property. -/
def addCandidate {α : Type} (groups : Entries (List (Method α))) (method : Method α) :
    Except Fault (Entries (List (Method α))) := do
  let property ← propertyOfAccessor method.name
  if isExposedName property then
    return groups.put property ((groups.find? property).getD [] ++ [method])
  else return groups

/-- The candidates of each property, in order of declaration. -/
def groupByProperty {α : Type} (methods : List (Method α)) :
    Except Fault (Entries (List (Method α))) :=
  methods.foldlM addCandidate []

section Resolution

variable (family : Family) (type : TypeName)

/-- Of two getters of one property, the one to prefer. -/
def preferGetter (property : String) (current candidate : Method Reader) :
    Except Fault (Method Reader) :=
  if current.type = candidate.type then
    if candidate.type ≠ .bool then
      .error (.ambiguousAccessor .getter property type
        (.sameType current.name candidate.name candidate.type))
    else if Text.startsWith ['i', 's'] candidate.name.toList then .ok candidate
    else .ok current
  else if family.isAssignable current.type candidate.type then .ok candidate
  else if family.isAssignable candidate.type current.type then .ok current
  else
    .error (.ambiguousAccessor .getter property type
      (.unrelatedReturns current.type current.name candidate.type candidate.name))

/-- Of two setters of one property, the one to prefer. -/
def preferSetter (property : String) (current candidate : Method Writer) :
    Except Fault (Method Writer) :=
  if family.isAssignable current.type candidate.type then .ok candidate
  else if family.isAssignable candidate.type current.type then .ok current
  else
    .error (.ambiguousAccessor .setter property type
      (.unrelatedParameters current.type current.name candidate.type candidate.name))

/-- The preferred one of the candidates, compared one after the other. -/
def choose {α : Type} (prefer : Method α → Method α → Except Fault (Method α)) :
    List (Method α) → Except Fault (Option (Method α))
  | [] => .ok none
  | first :: others => do return some (← others.foldlM prefer first)

/-- The getter of a property among its candidates. -/
def chooseGetter (property : String) (candidates : List (Method Reader)) :
    Except Fault (Option (Method Reader)) :=
  choose (preferGetter family type property) candidates

/-- The setter of a property among its candidates, given the type of its
getter method. -/
def chooseSetter (property : String) (getterType : Option ValueType)
    (candidates : List (Method Writer)) : Except Fault (Option (Method Writer)) :=
  match getterType.bind fun type => candidates.find? fun candidate => candidate.type = type with
  | some exact => .ok (some exact)
  | none => choose (preferSetter family type property) candidates

/-- Chooses for every property in turn. -/
def resolveGroups {α : Type}
    (choice : String → List (Method α) → Except Fault (Option (Method α))) :
    Entries (List (Method α)) → Except Fault (Entries (Accessor α))
  | [] => .ok []
  | (property, candidates) :: groups => do
      let chosen ← choice property candidates
      let others ← resolveGroups choice groups
      match chosen with
      | some method => return (property, method.accessor) :: others
      | none => return others

/-- The getters that methods provide. -/
def methodGetters (shape : Shape) : Except Fault (Entries (Accessor Reader)) := do
  resolveGroups (chooseGetter family type) (← groupByProperty shape.getters)

/-- The setters that methods provide. -/
def methodSetters (shape : Shape) (getters : Entries (Accessor Reader)) :
    Except Fault (Entries (Accessor Writer)) := do
  let choice property candidates :=
    chooseSetter family type property ((getters.find? property).map Accessor.type) candidates
  resolveGroups choice (← groupByProperty shape.setters)

end Resolution

/-! ## Fields -/

/-- Adds an entry unless the name is listed already. -/
def Entries.fill {α : Type} (key : String) (value : α) (entries : Entries α) : Entries α :=
  if entries.has key then entries else entries ++ [(key, value)]

/-- Fills in what the fields read. -/
def fillGetters (getters : Entries (Accessor Reader)) (fields : List Field) :
    Entries (Accessor Reader) :=
  fields.foldl
    (fun getters field =>
      if isExposedName field.name then
        getters.fill field.name
          { strategy := .field, member := field.name, type := field.type, call := field.reader }
      else getters)
    getters

/-- Fills in what the fields write. -/
def fillSetters (setters : Entries (Accessor Writer)) (fields : List Field) :
    Entries (Accessor Writer) :=
  fields.foldl
    (fun setters field =>
      match field.writer with
      | some writer =>
          if isExposedName field.name then
            setters.fill field.name
              { strategy := .field, member := field.name, type := field.type, call := writer }
          else setters
      | none => setters)
    setters

/-! ## The index of names -/

/-- The text without its underscores. -/
def dropUnderscores (s : String) : String := String.ofList (s.toList.filter (· ≠ '_'))

/-- Enters a property under its upper-case name, and under that name without
underscores where this is still free. -/
def enterName (index : Entries String) (name : String) : Entries String :=
  let key := Text.upper name
  let bare := dropUnderscores key
  (if bare = key then index else index.fill bare name).put key name

/-- The properties by upper-case name. -/
def nameIndex (names : List String) : Entries String := names.foldl enterName []

/-! ## Construction -/

/-- Resolves the shape of a type. -/
def Family.resolve (family : Family) (type : TypeName) (shape : Shape) :
    Except Fault Descriptor := do
  let ofMethods ← methodGetters family type shape
  let setters := fillSetters (← methodSetters family type shape ofMethods) shape.fields
  let getters := fillGetters ofMethods shape.fields
  return {
    type
    constructor := shape.constructor
    getters
    setters
    index := nameIndex (getters.keys ++ setters.keys) }

/-- The descriptor of a type. -/
def Family.describe (family : Family) (type : TypeName) : Except Fault Descriptor :=
  family.resolve type (family.shape type)

/-- A source of descriptors. -/
abbrev Describe := TypeName → Except Fault Descriptor

namespace Descriptor

/-! ## Queries -/

/-- New instances can be created. -/
def canInstantiate (d : Descriptor) : Bool := d.constructor.isSome

/-- A new instance. -/
def instantiate (d : Descriptor) : Except Fault Value :=
  match d.constructor with
  | some slots => .ok (.object d.type slots)
  | none => .error (.noDefaultConstructor d.type)

/-- The way of reading a property. -/
def getter (d : Descriptor) (property : String) : Except Fault (Accessor Reader) :=
  match d.getters.find? property with
  | some accessor => .ok accessor
  | none => .error (.noSuchProperty .getter property d.type)

/-- The way of writing a property. -/
def setter (d : Descriptor) (property : String) : Except Fault (Accessor Writer) :=
  match d.setters.find? property with
  | some accessor => .ok accessor
  | none => .error (.noSuchProperty .setter property d.type)

/-- The type that a property reads as. -/
def getterType (d : Descriptor) (property : String) : Except Fault ValueType :=
  (d.getter property).map Accessor.type

/-- The type that a property is written as. -/
def setterType (d : Descriptor) (property : String) : Except Fault ValueType :=
  (d.setter property).map Accessor.type

/-- The property can be read. -/
def hasGetter (d : Descriptor) (property : String) : Bool := d.getters.has property

/-- The property can be written. -/
def hasSetter (d : Descriptor) (property : String) : Bool := d.setters.has property

/-- The property meant by a name in any case. -/
def findName (d : Descriptor) (name : String) : Option String :=
  d.index.find? (Text.upper name)

end Descriptor

end SqlMapper
