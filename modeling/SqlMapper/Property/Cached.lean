import SqlMapper.Property.Cache
import SqlMapper.Property.Navigation

/-!
# Paths through a cache

The questions about paths and the reads and writes along them, put by one who keeps
descriptors: every descriptor on the way comes from the cache, which keeps what it
had to build, also if the way ends in a fault.

## Main definitions

* `Cached`, `CachedEdit` — computations that ask the cache.
* `PropertyRequest` — what can be asked of properties.
* `PropertyRequest.answer`, `PropertyRequest.ask` — the answer by descriptors that
  are built each time, and the answer through the cache.
-/

namespace SqlMapper

/-- A computation that asks the cache for descriptors. -/
abbrev Cached := ExceptT Fault (StateM DescriptorCache)

/-- A change of a value in place that asks the cache for descriptors. -/
abbrev CachedEdit := ExceptT Fault (StateT Value (StateM DescriptorCache))

namespace Cached

variable (family : Family)

/-- The descriptor of a type. -/
def descriptor (type : TypeName) : Cached Descriptor := do
  return (← DescriptorCache.describe family type).descriptor

/-! ## Questions about paths -/

/-- The descriptor of the type that one segment reads as. -/
def step (d : Descriptor) (segment : Segment) : Cached Descriptor := do
  match ← d.segmentType segment with
  | .object name => descriptor family name
  | type => throw (.reflection (.noProperties segment.text d.type type))

/-- The type that the segments read as. -/
def readType (d : Descriptor) (segment : Segment) : List Segment → Cached ValueType
  | [] => d.segmentType segment
  | next :: rest => do readType (← step family d segment) next rest

/-- The type that the segments are written as. -/
def writeType (d : Descriptor) (segment : Segment) : List Segment → Cached ValueType
  | [] => d.setterType segment.name
  | next :: rest => do writeType (← step family d segment) next rest

/-- The segments can be read. -/
def canRead (d : Descriptor) (segment : Segment) :
    List Segment → StateM DescriptorCache Bool
  | [] => return d.hasGetter segment.name
  | next :: rest =>
      if d.hasGetter segment.name then do
        match ← (step family d segment).run with
        | .ok child => canRead child next rest
        | .error _ => return false
      else return false

/-- The segments can be written. -/
def canWrite (d : Descriptor) (segment : Segment) :
    List Segment → StateM DescriptorCache Bool
  | [] => return d.hasSetter segment.name
  | next :: rest =>
      if d.hasSetter segment.name then do
        match ← (step family d segment).run with
        | .ok child => canWrite child next rest
        | .error _ => return false
      else return false

/-- The exposed properties that the segments mean, their indexes dropped. -/
def findSegments (d : Descriptor) (segment : Segment) :
    List Segment → StateM DescriptorCache (Option (List String))
  | [] => return (d.findName segment.name).map fun property => [property]
  | next :: rest =>
      match d.findName segment.name with
      | none => return none
      | some property =>
          match d.getterType property with
          | .ok (.object name) => do
              match ← (descriptor family name).run with
              | .ok child => return (← findSegments child next rest).map (property :: ·)
              | .error _ => return none
          | _ => return none

/-- The exposed path that a name in any case stands for. -/
def findPath (d : Descriptor) (name : String) (bare : Bool) :
    StateM DescriptorCache (Option String) := do
  let path := Path.ofString (if bare then dropUnderscores name else name)
  let properties ← findSegments family d path.head path.rest
  return properties.bind fun properties =>
    let found := ".".intercalate properties
    if found.isEmpty then none else some found

/-! ## Reading -/

/-- Reads a named property. -/
def readProperty (target : Value) (name : String) : Cached Value := do
  match target with
  | .null => return .null
  | .object type slots => (← (← descriptor family type).getter name).call.invoke type slots
  | .map entries => return (Entries.find? name entries).getD .null
  | .params entries => Bag.get entries name
  | other => throw (.noSuchProperty .getter name other.label)

/-- Reads one segment: its name, if it has one, and then its index. -/
def readSegment (target : Value) (segment : Segment) : Cached Value := do
  if target.isNull then return .null
  else
    match segment.index with
    | none => readProperty family target segment.name
    | some index =>
        if segment.name.isEmpty then target.readIndex index
        else (← readProperty family target segment.name).readIndex index

/-- The value at a path. -/
def readPath (root : Value) (path : String) : Cached Value :=
  (Path.ofString path).segments.foldlM (readSegment family) root

/-! ## Fresh values -/

/-- A fresh value of a declared type for the absent segment. -/
def freshValue (type : ValueType) (seg : Segment) : Cached Value := do
  match type with
  | .object name => (← descriptor family name).instantiate
  | .map | .any => return .map []
  | .params => return .params []
  | .list _ => return .list []
  | other => throw (.reflection (.noIntermediate other seg.text))

/-- A fresh value for an absent segment of `parent`. -/
def freshSegment (parent : Value) (seg : Segment) : Cached Value := do
  match parent with
  | .object type _ =>
      let declared ← (← descriptor family type).setterType seg.name
      freshValue family (if seg.index.isSome then declared.element else declared) seg
  | _ => freshValue family .map seg

end Cached

/-! ## Writing -/

namespace CachedEdit

/-- Asks the cache in the course of a change. -/
def asking {α : Type} (x : Cached α) : CachedEdit α := ExceptT.mk (StateT.lift x.run)

/-- A change that needs no descriptors. -/
def plain {α : Type} (edit : Edit α) : CachedEdit α :=
  ExceptT.mk fun root => return edit.run root

/-- Applies a change to a copy and answers with the changed copy. -/
def onCopy (copy : Value) (edit : CachedEdit Unit) : CachedEdit Value :=
  ExceptT.mk fun root => do
    let (outcome, changed) ← edit.run.run copy
    return (outcome.map fun _ => changed, root)

variable (family : Family)

/-- Writes a named property. -/
def property (name : String) (value : Value) : CachedEdit Unit := do
  match ← get with
  | .object type slots =>
      let setter ← asking do (← Cached.descriptor family type).setter name
      set (Value.object type (← setter.call.invoke type slots value))
  | .map entries => set (Value.map (Entries.insert name value entries))
  | .params entries => set (Value.params (Entries.put name value entries))
  | other => throw (.noSuchProperty .setter name other.label)

/-- Writes one segment: its name, or the element at its index of what its name reads
as. -/
def segment (seg : Segment) (value : Value) : CachedEdit Unit := do
  match seg.index with
  | none => property family seg.name value
  | some index =>
      if seg.name.isEmpty then plain (Edit.element index value)
      else
        let collection ← asking (Cached.readProperty family (← get) seg.name)
        property family seg.name (← plain (Edit.onCopy collection (Edit.element index value)))

/-- Writes along the segments. -/
def segments (value : Value) (seg : Segment) : List Segment → CachedEdit Unit
  | [] => segment family seg value
  | next :: rest => do
      let root ← get
      let head ← asking (Cached.readSegment family root seg)
      if head.isNull && value.isNull then return ()
      else
        let head ← if head.isNull then asking (Cached.freshSegment family root seg) else pure head
        segment family seg (← onCopy head (segments value next rest))

/-- Writes the value at a path. -/
def path (path : String) (value : Value) : CachedEdit Unit :=
  let path := Path.ofString path
  segments family value path.head path.rest

end CachedEdit

/-! ## Requests -/

/-- What can be asked of the properties of types and values. -/
inductive PropertyRequest where
  /-- The descriptor of a type. -/
  | describe (type : TypeName)
  /-- The type that a path reads as, on the type with the descriptor. -/
  | readType (d : Descriptor) (path : String)
  /-- The type that a path is written as. -/
  | writeType (d : Descriptor) (path : String)
  | canRead (d : Descriptor) (path : String)
  | canWrite (d : Descriptor) (path : String)
  /-- The exposed path that a name in any case stands for. -/
  | findPath (d : Descriptor) (name : String) (bare : Bool)
  /-- The value at a path. -/
  | get (root : Value) (path : String)
  /-- A write at a path. -/
  | set (root : Value) (path : String) (value : Value)

/-- The answer to a request. -/
inductive PropertyAnswer where
  | descriptor (outcome : Except Fault Descriptor)
  | type (outcome : Except Fault ValueType)
  | holds (answer : Bool)
  | found (path : Option String)
  | value (outcome : Except Fault Value)
  /-- The outcome of a write, and the root afterwards. -/
  | written (outcome : Except Fault Unit) (root : Value)

namespace PropertyRequest

/-- The answer, if descriptors are built whenever they are needed. -/
def answer (describe : Describe) : PropertyRequest → PropertyAnswer
  | .describe type => .descriptor (describe type)
  | .readType d path => .type (d.pathReadType describe path)
  | .writeType d path => .type (d.pathWriteType describe path)
  | .canRead d path => .holds (d.canReadPath describe path)
  | .canWrite d path => .holds (d.canWritePath describe path)
  | .findPath d name bare => .found (d.findPath describe name bare)
  | .get root path => .value (root.readPath describe path)
  | .set root path value =>
      let (outcome, root) := (Edit.path describe path value).applyTo root
      .written outcome root

/-- The answer through the cache. -/
def ask (family : Family) : PropertyRequest → StateM DescriptorCache PropertyAnswer
  | .describe type => return .descriptor (← (Cached.descriptor family type).run)
  | .readType d path => do
      let path := Path.ofString path
      return .type (← (Cached.readType family d path.head path.rest).run)
  | .writeType d path => do
      let path := Path.ofString path
      return .type (← (Cached.writeType family d path.head path.rest).run)
  | .canRead d path => do
      let path := Path.ofString path
      return .holds (← Cached.canRead family d path.head path.rest)
  | .canWrite d path => do
      let path := Path.ofString path
      return .holds (← Cached.canWrite family d path.head path.rest)
  | .findPath d name bare => return .found (← Cached.findPath family d name bare)
  | .get root path => return .value (← (Cached.readPath family root path).run)
  | .set root path value => do
      let (outcome, root) ← (CachedEdit.path family path value).run root
      return .written outcome root

end PropertyRequest

end SqlMapper
