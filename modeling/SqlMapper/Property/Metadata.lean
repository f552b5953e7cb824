import SqlMapper.Property.Descriptor
import SqlMapper.Property.Path

/-!
# Metadata: what a path means on a type

Questions about a path that need no instance: what type it reads and writes,
whether it can be read or written, and which exposed path a name in any case
stands for. An index in a segment stands for the element type.

A segment that is followed by others must have an object type; the question
goes on with the descriptor of that type.
-/

namespace SqlMapper

namespace Descriptor

variable (describe : Describe)

/-- The type that one segment reads as. -/
def segmentType (d : Descriptor) (segment : Segment) : Except Fault ValueType := do
  let type ← d.getterType segment.name
  return if segment.index.isSome then type.element else type

/-- The descriptor of the type that one segment reads as. -/
def step (d : Descriptor) (segment : Segment) : Except Fault Descriptor := do
  match ← d.segmentType segment with
  | .object name => describe name
  | type => .error (.reflection (.noProperties segment.text d.type type))

/-! ## Types of paths -/

/-- The type that the segments read as. -/
def readType (d : Descriptor) (segment : Segment) : List Segment → Except Fault ValueType
  | [] => d.segmentType segment
  | next :: rest => do readType (← d.step describe segment) next rest

/-- The type that the segments are written as. -/
def writeType (d : Descriptor) (segment : Segment) : List Segment → Except Fault ValueType
  | [] => d.setterType segment.name
  | next :: rest => do writeType (← d.step describe segment) next rest

/-- The segments can be read. -/
def canRead (d : Descriptor) (segment : Segment) : List Segment → Bool
  | [] => d.hasGetter segment.name
  | next :: rest =>
      d.hasGetter segment.name &&
        match d.step describe segment with
        | .ok child => canRead child next rest
        | .error _ => false

/-- The segments can be written. -/
def canWrite (d : Descriptor) (segment : Segment) : List Segment → Bool
  | [] => d.hasSetter segment.name
  | next :: rest =>
      d.hasSetter segment.name &&
        match d.step describe segment with
        | .ok child => canWrite child next rest
        | .error _ => false

/-- The type that a path reads as. -/
def pathReadType (d : Descriptor) (path : String) : Except Fault ValueType :=
  let path := Path.ofString path
  d.readType describe path.head path.rest

/-- The type that a path is written as. -/
def pathWriteType (d : Descriptor) (path : String) : Except Fault ValueType :=
  let path := Path.ofString path
  d.writeType describe path.head path.rest

/-- The path can be read. -/
def canReadPath (d : Descriptor) (path : String) : Bool :=
  let path := Path.ofString path
  d.canRead describe path.head path.rest

/-- The path can be written. -/
def canWritePath (d : Descriptor) (path : String) : Bool :=
  let path := Path.ofString path
  d.canWrite describe path.head path.rest

/-! ## Finding a path by name -/

/-- The exposed properties that the segments mean, their indexes dropped. -/
def findSegments (d : Descriptor) (segment : Segment) : List Segment → Option (List String)
  | [] => (d.findName segment.name).map fun property => [property]
  | next :: rest => do
      let property ← d.findName segment.name
      match d.getterType property with
      | .ok (.object name) =>
          match describe name with
          | .ok child => return property :: (← findSegments child next rest)
          | .error _ => none
      | _ => none

/-- The exposed path that a name in any case stands for. With `bare`,
underscores in the name do not count. -/
def findPath (d : Descriptor) (name : String) (bare : Bool) : Option String := do
  let path := Path.ofString (if bare then dropUnderscores name else name)
  let properties ← d.findSegments describe path.head path.rest
  let found := ".".intercalate properties
  if found.isEmpty then none else return found

end Descriptor

end SqlMapper
