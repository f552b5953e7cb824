import SqlMapper.Fault
import SqlMapper.Text.Segments

/-!
# Catalogues: entries by full and by short id

A catalogue keeps what is registered under an id and refuses to register an
id twice. The part of an id behind its last dot is its short id. A short id
finds its entry as long as it belongs to one id only; after that it is
ambiguous for good.

## Main definitions

* `Catalogue` — the type, with the ids in order of registration.
* `Catalogue.insert`, `Catalogue.get` — registration and look-up.
-/

namespace SqlMapper

/-- What an id or a short id stands for. -/
inductive CatalogueSlot (α : Type) where
  | entry (value : α)
  /-- A short id of several entries. -/
  | ambiguous
  deriving Repr

/-- What is registered, by id. -/
structure Catalogue (α : Type) where
  /-- What the entries are called together. -/
  name : String
  slots : Entries (CatalogueSlot α) := []
  /-- The registered ids, oldest first. -/
  ids : List String := []

namespace Catalogue

variable {α : Type}

/-- The part of an id behind its last dot; an id without a dot has none. -/
def shortId? (id : String) : Option String :=
  (Text.cutLast '.' id.toList).map fun (_, short) => String.ofList short

/-- Claims a short id for an entry: it stands for the entry if it is free and
is ambiguous otherwise. -/
def claimShort (short : String) (value : α) (slots : Entries (CatalogueSlot α)) :
    Entries (CatalogueSlot α) :=
  slots.put short (if slots.has short then .ambiguous else .entry value)

/-- Registers an entry. -/
def insert (c : Catalogue α) (id : String) (value : α) : Except Fault (Catalogue α) :=
  if c.slots.has id then .error (.duplicateId c.name id)
  else
    let slots :=
      match shortId? id with
      | some short => claimShort short value c.slots
      | none => c.slots
    .ok { c with slots := slots.put id (.entry value), ids := c.ids ++ [id] }

/-- The entry of an id or of a short id. -/
def get (c : Catalogue α) (id : String) : Except Fault α :=
  match c.slots.find? id with
  | some (.entry value) => .ok value
  | some .ambiguous => .error (.ambiguousId c.name id)
  | none => .error (.unknownId c.name id)

/-- The id stands for something, be it ambiguous. -/
def contains (c : Catalogue α) (id : String) : Bool := c.slots.has id

/-- The registered entries, oldest first. -/
def values (c : Catalogue α) : List α :=
  c.ids.filterMap fun id =>
    match c.slots.find? id with
    | some (.entry value) => some value
    | _ => none

/-- Number of registered entries. -/
def size (c : Catalogue α) : Nat := c.ids.length

/-- Nothing is registered. -/
def isEmpty (c : Catalogue α) : Bool := c.ids.isEmpty

end Catalogue

end SqlMapper
