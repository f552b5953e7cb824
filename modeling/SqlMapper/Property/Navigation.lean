import SqlMapper.Property.Metadata
import SqlMapper.Value.Bag

/-!
# Navigation: reading and writing along a path

Instances are accessed through their descriptors, maps and parameter bags by
name, lists by position. Nothing is read from `null`: once a segment reads
`null`, the whole path does.

A write changes a value in place. On the way it reads a copy of every
intermediate value, writes into the copy and stores it back; an absent
intermediate is created from its declared type, unless `null` is written,
which then changes nothing.

## Main definitions

* `Value.readPath` — the value at a path.
* `Edit`, `Edit.path` — changes of a value in place, and the write at a path.
-/

namespace SqlMapper

/-! ## Positions in lists -/

/-- The bound of the numbers that count as a position. -/
def indexBound : Nat := 0x10000000000000000

/-- The position in a list of the given length that an index text means. -/
def listPosition (index : String) (length : Nat) : Except Fault Nat :=
  match Text.readBelow indexBound (Text.trimChars index.toList) with
  | none => .error (.reflection (.invalidIndex index))
  | some i => if i < length then .ok i else .error (.reflection (.outOfBounds i length))

/-! ## Reading -/

namespace Value

variable (describe : Describe)

/-- Reads a named property. -/
def readProperty (target : Value) (name : String) : Except Fault Value :=
  match target with
  | null => .ok null
  | object type slots => do (← (← describe type).getter name).call.invoke type slots
  | map entries => .ok ((Entries.find? name entries).getD null)
  | params entries => Bag.get entries name
  | other => .error (.noSuchProperty .getter name other.label)

/-- Reads an indexed element. -/
def readIndex (collection : Value) (index : String) : Except Fault Value :=
  match collection with
  | null => .ok null
  | list items => do return (items[← listPosition index items.length]?).getD null
  | map entries => .ok ((Entries.find? index entries).getD null)
  | params entries => Bag.get entries index
  | other => .error (.reflection (.notIndexable index other.label))

/-- Reads one segment: its name, if it has one, and then its index. -/
def readSegment (target : Value) (segment : Segment) : Except Fault Value :=
  if target.isNull then .ok null
  else
    match segment.index with
    | none => target.readProperty describe segment.name
    | some index =>
        if segment.name.isEmpty then target.readIndex index
        else do (← target.readProperty describe segment.name).readIndex index

/-- Reads one segment after the other. -/
def readSegments (root : Value) (segments : List Segment) : Except Fault Value :=
  segments.foldlM (readSegment describe) root

/-- The value at a path. -/
def readPath (root : Value) (path : String) : Except Fault Value :=
  root.readSegments describe (Path.ofString path).segments

end Value

/-! ## Writing -/

/-- A change of a value in place. What was changed before a fault stays
changed. -/
abbrev Edit := ExceptT Fault (StateM Value)

namespace Edit

/-- Applies a change to a value: the outcome, and the value afterwards. -/
def applyTo (edit : Edit Unit) (root : Value) : Except Fault Unit × Value := edit.run root

variable (describe : Describe)

/-- Writes a named property. -/
def property (name : String) (value : Value) : Edit Unit := do
  match ← get with
  | .object type slots =>
      let setter ← (describe type).bind fun d => d.setter name
      set (Value.object type (← setter.call.invoke type slots value))
  | .map entries => set (Value.map (Entries.insert name value entries))
  | .params entries => set (Value.params (Entries.put name value entries))
  | other => throw (.noSuchProperty .setter name other.label)

/-- Writes an indexed element. -/
def element (index : String) (value : Value) : Edit Unit := do
  match ← get with
  | .list items => set (Value.list (items.set (← listPosition index items.length) value))
  | .map entries => set (Value.map (Entries.insert index value entries))
  | .params entries => set (Value.params (Entries.put index value entries))
  | other => throw (.reflection (.notIndexWritable index other.label))

/-- Applies a change to a copy and answers with the changed copy. -/
def onCopy (copy : Value) (edit : Edit Unit) : Edit Value := do
  let (outcome, changed) := edit.applyTo copy
  outcome
  return changed

/-- Writes one segment: its name, or the element at its index of what its
name reads as. -/
def segment (seg : Segment) (value : Value) : Edit Unit := do
  match seg.index with
  | none => property describe seg.name value
  | some index =>
      if seg.name.isEmpty then element index value
      else
        let collection ← (← get).readProperty describe seg.name
        property describe seg.name (← onCopy collection (element index value))

/-- A fresh value of a declared type for the absent segment. -/
def freshValue (type : ValueType) (seg : Segment) : Except Fault Value :=
  match type with
  | .object name => do (← describe name).instantiate
  | .map | .any => .ok (.map [])
  | .params => .ok (.params [])
  | .list _ => .ok (.list [])
  | other => .error (.reflection (.noIntermediate other seg.text))

/-- A fresh value for an absent segment of `parent`. -/
def freshSegment (parent : Value) (seg : Segment) : Except Fault Value :=
  match parent with
  | .object type _ => do
      let declared ← (← describe type).setterType seg.name
      freshValue describe (if seg.index.isSome then declared.element else declared) seg
  | _ => freshValue describe .map seg

/-- Writes along the segments. -/
def segments (value : Value) (seg : Segment) : List Segment → Edit Unit
  | [] => segment describe seg value
  | next :: rest => do
      let root ← get
      let head ← root.readSegment describe seg
      if head.isNull && value.isNull then return ()
      else
        let head ← if head.isNull then (freshSegment describe root seg : Except Fault Value)
          else pure head
        segment describe seg (← onCopy head (segments value next rest))

/-- Writes the value at a path. -/
def path (path : String) (value : Value) : Edit Unit :=
  let path := Path.ofString path
  segments describe value path.head path.rest

end Edit

end SqlMapper
