import SqlMapper.Value.Conversion

/-!
# Shapes: what an object type declares

A shape lists what a type exposes without resolving conflicts: several
getters may address one property and fields may repeat what methods offer. A
family gives a shape to every type name and thereby the supertype relation.

Reading an instance cannot fail. Writing converts the value first, so that a
value of the wrong form is refused before anything is stored. Either refuses
an instance of another type.

## Main definitions

* `Reader`, `Writer` — the calls behind getters and setters.
* `Shape`, `Family` — the declarations of one type and of all types.
* `Family.lineage` — a type and its supertypes, depth first, in the order of
  declaration.
* `Family.isSubtype`, `Family.isAssignable` — which types can stand where
  another is declared.
-/

namespace SqlMapper

/-! ## Accessors -/

/-- What an instance holds, by slot. -/
abbrev Slots := Entries Value

/-- A call that reads a property of the instances of `owner`. -/
structure Reader where
  owner : TypeName
  read : Slots → Value

/-- A call that writes a property of the instances of `owner`: it stores the
value in the form that `conversion` asks for. -/
structure Writer where
  owner : TypeName
  conversion : Conversion
  store : Value → Slots → Slots

/-- Reads a property of an instance of `type` that holds `slots`. -/
def Reader.invoke (reader : Reader) (type : TypeName) (slots : Slots) : Except Fault Value :=
  if type = reader.owner then .ok (reader.read slots)
  else .error (.reflection (.wrongTarget reader.owner type))

/-- Writes a property of an instance of `type` that holds `slots`. -/
def Writer.invoke (writer : Writer) (type : TypeName) (slots : Slots) (value : Value) :
    Except Fault Slots := do
  let value ← writer.conversion.apply value
  if type = writer.owner then .ok (writer.store value slots)
  else .error (.reflection (.wrongTarget writer.owner type))

/-- Reads one slot; an empty slot reads as `null`. -/
def Reader.slot (owner : TypeName) (slot : String) : Reader where
  owner := owner
  read slots := (slots.find? slot).getD .null

/-- Fills one slot. -/
def Writer.slot (owner : TypeName) (slot : String) (conversion : Conversion) : Writer where
  owner := owner
  conversion := conversion
  store value slots := slots.insert slot value

/-! ## Shapes -/

/-- A declared field; a field without a writer is read-only. -/
structure Field where
  name : String
  type : ValueType
  reader : Reader
  writer : Option Writer

/-- A declared accessor method with its call. -/
structure Method (α : Type) where
  name : String
  type : ValueType
  call : α

/-- What an object type declares. -/
structure Shape where
  /-- What a new instance holds; a type without one cannot be created. -/
  constructor : Option Slots := none
  supertypes : List TypeName := []
  fields : List Field := []
  getters : List (Method Reader) := []
  setters : List (Method Writer) := []

/-- The shapes of the known object types. -/
structure Family where
  shapes : Entries Shape := []

namespace Family

/-- The shape of a type; a type that is not known declares nothing. -/
def shape (family : Family) (type : TypeName) : Shape :=
  (family.shapes.find? type).getD {}

/-! ## The supertype relation -/

/-- The walk over a type and its supertypes, at most `depth` steps up. -/
def lineageWithin (family : Family) : Nat → TypeName → List TypeName
  | 0, type => [type]
  | depth + 1, type =>
      type :: (family.shape type).supertypes.flatMap (family.lineageWithin depth)

/-- A type, then the lineages of its supertypes in the order of declaration.
Only known types have supertypes, so that no chain of distinct types is
longer than the family. -/
def lineage (family : Family) (type : TypeName) : List TypeName :=
  family.lineageWithin family.shapes.length type

/-- `type` is `other` or declares it, maybe through others, as a
supertype. -/
def isSubtype (family : Family) (type other : TypeName) : Bool :=
  (family.lineage type).contains other

/-- A value of type `found` may be used where `declared` is declared. -/
def isAssignable (family : Family) : (declared found : ValueType) → Bool
  | .any, _ => true
  | .list a, .list b => family.isAssignable a b
  | .object a, .object b => family.isSubtype b a
  | a, b => a == b

end Family

end SqlMapper
