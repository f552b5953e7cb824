import SqlMapper.Toml.Reader

/-!
# Records: typed views of TOML nodes

A record takes its fields from a table by name, or from an array by
position. In a table, fields without a counterpart are ignored and an
optional field may be missing; in an array, only a field with a default may
be missing.
-/

namespace SqlMapper.Toml

/-- Reads a node as something typed. -/
abbrev View (α : Type) := Node → Option α

/-- The fields of a record. -/
structure Record where
  fields : Table
  /-- The fields were given by position. -/
  positional : Bool

namespace View

/-- A string. -/
def string : Node → Option String
  | .string s => some s
  | _ => none

/-- A truth value. -/
def bool : Node → Option Bool
  | .boolean b => some b
  | _ => none

/-- A natural number below a bound. -/
def below (bound : Nat) : Node → Option Nat
  | .integer n => if 0 ≤ n && n < bound then some n.toNat else none
  | _ => none

/-- The items of an array, or the tables of a repeated header. -/
def items : Node → Option (List Node)
  | .array nodes => some nodes
  | .tables tables => some (tables.map (.table {}))
  | _ => none

/-- A list. -/
def list {α : Type} (view : Node → Option α) (node : Node) : Option (List α) := do
  (← items node).mapM view

/-- A record with the given fields. A date counts as a table without
known fields. -/
def record (names : List String) : Node → Option Record
  | .table _ entries => some { fields := entries, positional := false }
  | .dateTime _ => some { fields := [], positional := false }
  | node => do return { fields := names.zip (← items node), positional := true }

/-- One of several names, written as a string or as the only key of a table
whose value is empty. -/
def name (names : List String) : Node → Option String
  | .string s => if s ∈ names then some s else none
  | .table _ [(key, value)] =>
      if key ∉ names then none
      else
        match value with
        | .array [] | .tables [] | .table _ [] => some key
        | _ => none
  | _ => none

end View

namespace Record

variable {α : Type} (view : Node → Option α)

/-- A field that must be there. -/
def required (record : Record) (name : String) : Option α := do
  view (← record.fields.find? name)

/-- A field that has a default. -/
def withDefault (record : Record) (name : String) (default : α) : Option α :=
  match record.fields.find? name with
  | some node => view node
  | none => some default

/-- A field that may be missing. -/
def optional (record : Record) (name : String) : Option (Option α) :=
  match record.fields.find? name with
  | some node => (view node).map some
  | none => if record.positional then none else some none

end Record

end SqlMapper.Toml
