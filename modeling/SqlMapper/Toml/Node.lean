import SqlMapper.Association

/-!
# TOML nodes: the tree of a TOML document

A document is a table. A table remembers how it came about, because that
decides what may still be added to it: a table written with braces is closed,
a table with a header of its own is defined once, and a table that was only
passed through on the way to another one can still get a header.

## Main definitions

* `Node` — the values of a document.
* `Node.assign` — adds a value at a dotted key.
* `Node.openTable`, `Node.appendTable` — fill in a table under a header.
-/

namespace SqlMapper.Toml

/-- How a table came about. -/
structure TableOrigin where
  /-- It was written with braces. -/
  inline : Bool := false
  /-- It was only passed through. -/
  implicit : Bool := false
  /-- It was passed through by a dotted key. -/
  dotted : Bool := false
  deriving DecidableEq, Repr

/-- A value of a document. -/
inductive Node where
  | string (s : String)
  | integer (n : Int)
  /-- A floating number as written. -/
  | float (text : String)
  | boolean (b : Bool)
  /-- A date, a time or both as written. -/
  | dateTime (text : String)
  | array (items : List Node)
  | table (origin : TableOrigin) (entries : List (String × Node))
  /-- The tables with one repeated header. -/
  | tables (items : List (List (String × Node)))
  deriving Inhabited, Repr

/-- The entries of a table. -/
abbrev Table := Entries Node

namespace Table

/-- The origin of a table that a dotted key passes through. -/
def dottedOrigin (inline : Bool) : TableOrigin := { inline, implicit := true, dotted := true }

/-- Adds a value under a key that is free. -/
def addNew (key : String) (value : Node) (table : Table) : Option Table :=
  if table.has key then none else some (table ++ [(key, value)])

/-- Adds a value at a dotted key, the last part of which is `key`. The parts
before it pass through tables that only dotted keys define. With `inline` the
table stands in braces. -/
def assign (inline : Bool) (key : String) (value : Node) : List String → Table → Option Table
  | [], table => table.addNew key value
  | k :: path, table =>
      match table.find? k with
      | none => do
          let inner ← assign inline key value path []
          return table.put k (.table (dottedOrigin inline) inner)
      | some (.table origin entries) =>
          if !origin.implicit || (path.isEmpty && !origin.dotted) then none
          else do return table.put k (.table origin (← assign inline key value path entries))
      | some (.tables items) =>
          match items.reverse with
          | [] => none
          | last :: before =>
              if path.isEmpty then none
              else do
                let last ← assign inline key value path last
                return table.put k (.tables (before.reverse ++ [last]))
      | some _ => none

/-- Changes the table that a header's parts lead to. Missing tables are
passed through; of repeated tables the last one is meant. -/
def descend (change : Table → Option Table) : List String → Table → Option Table
  | [], table => change table
  | k :: path, table =>
      match table.find? k with
      | none => do
          return table.put k (.table { implicit := true } (← descend change path []))
      | some (.table origin entries) =>
          if origin.inline then none
          else do return table.put k (.table origin (← descend change path entries))
      | some (.tables items) =>
          match items.reverse with
          | [] => none
          | last :: before => do
              let last ← descend change path last
              return table.put k (.tables (before.reverse ++ [last]))
      | some _ => none

/-- Fills in the table of a header. The table is new or was only passed
through by other headers. -/
def openTable (fill : Table → Option Table) (path : List String) (key : String) :
    Table → Option Table :=
  descend
    (fun parent =>
      match parent.find? key with
      | none => do return parent.put key (.table {} (← fill []))
      | some (.table origin entries) =>
          if origin.implicit && !origin.dotted then do
            return parent.put key (.table {} (← fill entries))
          else none
      | some _ => none)
    path

/-- Fills in one more table of a repeated header. -/
def appendTable (fill : Table → Option Table) (path : List String) (key : String) :
    Table → Option Table :=
  descend
    (fun parent =>
      match parent.find? key with
      | none => do return parent.put key (.tables [← fill []])
      | some (.tables items) => do return parent.put key (.tables (items ++ [← fill []]))
      | some _ => none)
    path

end Table

end SqlMapper.Toml
