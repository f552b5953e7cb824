import SqlMapper.Text.Segments

/-!
# Property paths: `a.b[0].c`

A path is a sequence of segments between dots. A segment is a name, then
maybe an index in brackets. Nothing is refused: the name ends at the first
bracket, the index is the rest of the segment, and one closing bracket at
its end is dropped if there is one.

## Main results

* `Path.segments_append` — the segments of two paths joined by a dot are the
  segments of the one and then those of the other.
-/

namespace SqlMapper

/-- One step of a path. -/
structure Segment where
  /-- The segment as written. -/
  text : String
  /-- The property, empty for a bare index. -/
  name : String
  /-- What stands in the brackets, if there are any. -/
  index : Option String
  deriving DecidableEq, Repr

/-- Reads the characters of one segment. -/
def Segment.ofChars (cs : List Char) : Segment :=
  match Text.cutFirst '[' cs with
  | none => { text := String.ofList cs, name := String.ofList cs, index := none }
  | some (name, inner) =>
      { text := String.ofList cs
        name := String.ofList name
        index := some (String.ofList ((Text.dropSuffix? [']'] inner).getD inner)) }

/-- A path: its first segment and the ones after it. -/
structure Path where
  head : Segment
  rest : List Segment
  deriving DecidableEq, Repr

namespace Path

/-- Reads a path. -/
def ofString (path : String) : Path :=
  match (Text.splitAt '.' path.toList).map Segment.ofChars with
  | [] => { head := Segment.ofChars [], rest := [] }
  | head :: rest => { head, rest }

/-- All segments of the path. -/
def segments (path : Path) : List Segment := path.head :: path.rest

/-- The segments of a path are what stands between its dots. -/
theorem segments_ofString (path : String) :
    (ofString path).segments = (Text.splitAt '.' path.toList).map Segment.ofChars := by
  cases h : Text.splitAt '.' path.toList with
  | nil => exact absurd h (Text.splitAt_ne_nil _ _)
  | cons piece pieces => simp [ofString, segments, h]

/-- The segments of two paths joined by a dot are the segments of the one
and then those of the other. -/
theorem segments_append (p q : String) :
    (ofString (p ++ "." ++ q)).segments = (ofString p).segments ++ (ofString q).segments := by
  simp only [segments_ofString, String.toList_append, ← List.map_append]
  congr 1
  rw [← Text.splitAt_append]
  simp

end Path

end SqlMapper
