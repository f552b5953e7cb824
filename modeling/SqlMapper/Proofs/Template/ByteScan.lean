import SqlMapper.Proofs.Template.Filling
import SqlMapper.Proofs.Template.Scanning
import SqlMapper.Proofs.Text.Positions

/-!
# The scan by byte positions

The scan can also work on the bytes of the text, with positions in place of
the rest of the text: it finds a marker at a position, looks at the byte
before it, and slices out what lies between two positions. Then a reading can
be out of range. It is so in one case only: an open marker follows directly on
a marker that ends in a backslash. That backslash is taken for an escape, and
the literal before it would have to end before it begins. For close markers
the same case is guarded against.

## Main definitions

* `Reading` — a byte or a slice that is out of range.
* `Markers.roundAt`, `Markers.scanAt`, `Markers.scanBytes` — a round of the
  scan, the rounds from a position on, and the whole scan.
* `Markers.Reaches` — the positions at which a round begins.
* `Markers.OpensBehindBackslash` — an open marker at such a position, right
  behind a backslash.

## Main results

* `Markers.roundAt_cases` — what a round does at a position between characters.
* `Markers.scanAt_append` — the scan by positions is the scan.
* `Markers.scanBytes_in_range` — where readings are in range.
-/

namespace SqlMapper

open Text (utf8Length utf8Bytes slice? tailAt? backslashByte)

/-- A reading of a text by byte positions. -/
inductive Reading where
  | byte (position : Nat)
  | slice (first last : Nat)
  deriving DecidableEq, Repr

/-- The byte at a position; the reading itself if it is out of range. -/
def byteAt (text : List Char) (position : Nat) : Except Reading UInt8 :=
  match (utf8Bytes text)[position]? with
  | some byte => .ok byte
  | none => .error (.byte position)

/-- The text between two positions; the reading itself if it is out of
range. -/
def sliceAt (text : List Char) (first last : Nat) : Except Reading (List Char) :=
  match slice? text first last with
  | some middle => .ok middle
  | none => .error (.slice first last)

/-- There is a backslash right before a position. At a position that is not
behind `bound` nothing is looked at. -/
def backslashBefore (text : List Char) (bound position : Nat) : Except Reading Bool :=
  if position ≤ bound then .ok false
  else do return (← byteAt text (position - 1)) == backslashByte

/-- The position of the first occurrence of a marker from a position on. -/
def markerFrom? (marker text : List Char) (position : Nat) : Option Nat :=
  (tailAt? text position).bind fun tail =>
    (findMarker marker tail).map fun (before, _) => position + utf8Length before

section Readings

variable {marker front middle rest : List Char}

theorem sliceAt_append (front middle rest : List Char) :
    sliceAt (front ++ middle ++ rest) (utf8Length front) (utf8Length (front ++ middle)) =
      .ok middle := by
  have hslice : slice? (front ++ middle ++ rest) (utf8Length front)
      (utf8Length (front ++ middle)) = some middle :=
    Text.slice?_eq_some_iff.mpr ⟨front, rest, rfl, rfl, rfl⟩
  rw [sliceAt, hslice]

/-- A slice up to the backslash before a position. -/
theorem sliceAt_escaped (front before rest : List Char) :
    sliceAt (front ++ (before ++ ['\\']) ++ rest) (utf8Length front)
        (utf8Length (front ++ (before ++ ['\\'])) - 1) = .ok before := by
  have hsize : utf8Length ['\\'] = 1 := rfl
  have hbackslash : utf8Length (front ++ (before ++ ['\\'])) - 1 = utf8Length (front ++ before) := by
    rw [← List.append_assoc, Text.utf8Length_append, hsize, Nat.add_sub_cancel]
  have hpart := sliceAt_append front before ('\\' :: rest)
  rw [hbackslash]
  simpa using hpart

/-- A slice that ends before it begins is out of range. -/
theorem sliceAt_inverted {text : List Char} {first last : Nat} (h : last < first) :
    sliceAt text first last = .error (.slice first last) := by
  have hnone : slice? text first last = none := if_neg (by omega)
  rw [sliceAt, hnone]

theorem backslashBefore_of_le {text : List Char} {bound position : Nat} (h : position ≤ bound) :
    backslashBefore text bound position = .ok false := if_pos h

/-- Behind the bound, the character before the position decides. -/
theorem backslashBefore_append {bound : Nat} (hbound : bound < utf8Length front) :
    backslashBefore (front ++ rest) bound (utf8Length front) =
      .ok (decide (front.getLast? = some '\\')) := by
  have hfront : front ≠ [] := by
    rintro rfl
    simp at hbound
  have hbefore := Text.utf8Bytes_before_iff hfront rest
  have hlength : (utf8Bytes (front ++ rest)).length = utf8Length front + utf8Length rest := by
    rw [Text.length_utf8Bytes, Text.utf8Length_append]
  rw [backslashBefore, if_neg (by omega), byteAt]
  cases hbyte : (utf8Bytes (front ++ rest))[utf8Length front - 1]? with
  | none =>
      rw [List.getElem?_eq_none_iff] at hbyte
      omega
  | some byte =>
      rw [hbyte, Option.some.injEq] at hbefore
      show Except.ok (byte == backslashByte) = _
      rw [← decide_eq_decide.mpr hbefore]
      rfl

/-- The bound is where the text before the position begins: then that text
decides, and an empty one has no backslash. -/
theorem backslashBefore_within (front middle rest : List Char) :
    backslashBefore (front ++ middle ++ rest) (utf8Length front) (utf8Length (front ++ middle)) =
      .ok (decide (middle.getLast? = some '\\')) := by
  cases hlast : middle.getLast? with
  | none =>
      obtain rfl := List.getLast?_eq_none_iff.mp hlast
      exact backslashBefore_of_le (by simp)
  | some c =>
      obtain ⟨inner, rfl⟩ := List.getLast?_eq_some_iff.mp hlast
      have hbound : utf8Length front < utf8Length (front ++ (inner ++ [c])) := by
        have := c.utf8Size_pos
        simp
        omega
      rw [backslashBefore_append hbound]
      simp

/-- Before a position that is not bounded, all of the text decides. -/
theorem backslashBefore_start (front rest : List Char) :
    backslashBefore (front ++ rest) 0 (utf8Length front) =
      .ok (decide (front.getLast? = some '\\')) :=
  backslashBefore_within [] front rest

theorem markerFrom?_append (marker front rest : List Char) :
    markerFrom? marker (front ++ rest) (utf8Length front) =
      (findMarker marker rest).map fun (before, _) => utf8Length (front ++ before) := by
  rw [markerFrom?, Text.tailAt?_append, Option.bind_some]
  simp only [Text.utf8Length_append]

/-- A found marker lies in the text behind the position. -/
theorem markerFrom?_bounds {text : List Char} {position found : Nat}
    (h : markerFrom? marker text position = some found) :
    position ≤ found ∧ found + utf8Length marker ≤ utf8Length text := by
  obtain ⟨tail, htail, hfound⟩ := Option.bind_eq_some_iff.mp h
  obtain ⟨⟨before, after⟩, hmarker, rfl⟩ := Option.map_eq_some_iff.mp hfound
  obtain ⟨front, rfl, rfl⟩ := Text.tailAt?_eq_some_iff.mp htail
  rw [findMarker_eq_append hmarker]
  simp only [Text.utf8Length_append]
  omega

end Readings

namespace Markers

/-! ## A round -/

/-- What a round of the scan finds: a literal, and a content if there is a
token behind it; and where the next round begins. -/
structure Round where
  literal : List Char
  content : Option (List Char)
  next : Nat
  deriving DecidableEq, Repr

/-- The content that begins at a position, and the position behind its close
marker. -/
def contentAt (closing : List Char) (hc : closing ≠ []) (text : List Char) (position : Nat) :
    Except Reading (Option (List Char × Nat)) :=
  match _h : markerFrom? closing text position with
  | none => .ok none
  | some close => do
      if ← backslashBefore text position close then
        let part ← sliceAt text position (close - 1)
        let others ← contentAt closing hc text (close + utf8Length closing)
        return others.map fun (content, next) => (part ++ closing ++ content, next)
      else
        return some (← sliceAt text position close, close + utf8Length closing)
termination_by utf8Length text - position
decreasing_by
  have := markerFrom?_bounds _h
  have := Text.utf8Length_pos hc
  omega

/-- The round at an escaped open marker that begins at `start`. -/
def escapedAt (m : Markers) (text : List Char) (position start : Nat) : Except Reading Round := do
  let before ← sliceAt text position (start - 1)
  return { literal := before ++ m.opening, content := none, next := start + utf8Length m.opening }

theorem usable.closing_ne_nil {m : Markers} (hm : m.usable) : m.closing ≠ [] := hm.2

/-- The round at an open marker that begins at `start` and is not escaped. -/
def tokenAt (m : Markers) (hm : m.usable) (text : List Char) (position start : Nat) :
    Except Reading Round := do
  let before ← sliceAt text position start
  match ← contentAt m.closing hm.closing_ne_nil text (start + utf8Length m.opening) with
  | some (content, next) => return { literal := before, content := some content, next }
  | none =>
      let others ← sliceAt text start (utf8Length text)
      return { literal := before ++ others, content := none, next := utf8Length text }

/-- The round at the open marker that begins at `start`. -/
def markerAt (m : Markers) (hm : m.usable) (text : List Char) (position start : Nat) :
    Except Reading Round := do
  if ← backslashBefore text 0 start then m.escapedAt text position start
  else m.tokenAt hm text position start

/-- The round that begins at a position; none behind the last open marker. -/
def roundAt (m : Markers) (hm : m.usable) (text : List Char) (position : Nat) :
    Except Reading (Option Round) :=
  match markerFrom? m.opening text position with
  | none => .ok none
  | some start => (m.markerAt hm text position start).map some

section Contents

variable {closing text cs : List Char} {hc : closing ≠ []} {position : Nat}

private theorem contentAt_of_none (h : markerFrom? closing text position = none) :
    contentAt closing hc text position = .ok none := by
  rw [contentAt]
  split
  · rfl
  · next close hsome =>
      rw [h] at hsome
      cases hsome

private theorem contentAt_of_some {close : Nat}
    (h : markerFrom? closing text position = some close) :
    contentAt closing hc text position = do
      if ← backslashBefore text position close then
        let part ← sliceAt text position (close - 1)
        let others ← contentAt closing hc text (close + utf8Length closing)
        return others.map fun (content, next) => (part ++ closing ++ content, next)
      else
        return some (← sliceAt text position close, close + utf8Length closing) := by
  rw [contentAt]
  split
  · next hnone =>
      rw [h] at hnone
      cases hnone
  · next found hsome =>
      rw [h] at hsome
      obtain rfl := Option.some.inj hsome
      rfl

/-- What follows a content is behind its close marker. -/
theorem contentAt_next {content : List Char} {next : Nat}
    (h : contentAt closing hc text position = .ok (some (content, next))) :
    position < next ∧ next ≤ utf8Length text := by
  induction position using contentAt.induct closing hc text generalizing content with
  | case1 position hnone =>
      rw [contentAt_of_none hnone] at h
      cases h
  | case2 position close hsome ih =>
      have hbounds := markerFrom?_bounds hsome
      have hpos := Text.utf8Length_pos hc
      rw [contentAt_of_some hsome] at h
      obtain ⟨escaped, -, h⟩ := exists_of_bind_ok h
      cases escaped with
      | true =>
          obtain ⟨part, -, h⟩ := exists_of_bind_ok h
          obtain ⟨others, hothers, h⟩ := exists_of_bind_ok h
          obtain ⟨⟨inner, next'⟩, rfl, heq⟩ := Option.map_eq_some_iff.mp (Except.ok.inj h)
          obtain ⟨-, rfl⟩ := Prod.mk.inj heq
          have := ih hothers
          omega
      | false =>
          obtain ⟨part, -, h⟩ := exists_of_bind_ok h
          obtain ⟨-, rfl⟩ := Prod.mk.inj (Option.some.inj (Except.ok.inj h))
          omega

/-- At a position between characters, the content is the one that is read from
the rest of the text. -/
theorem contentAt_append (front cs : List Char) :
    contentAt closing hc (front ++ cs) (utf8Length front) =
      .ok ((readContent closing hc cs).map fun (content, rest) =>
        (content, utf8Length (front ++ cs) - utf8Length rest)) := by
  induction cs using induction_on_content hc generalizing front with
  | unclosed cs hfound =>
      have hnone : markerFrom? closing (front ++ cs) (utf8Length front) = none := by
        rw [markerFrom?_append, hfound]
        rfl
      rw [contentAt_of_none hnone, readContent_of_none hfound]
      rfl
  | close cs before after hfound hlast =>
      have hsome : markerFrom? closing (front ++ cs) (utf8Length front) =
          some (utf8Length (front ++ before)) := by
        rw [markerFrom?_append, hfound]
        rfl
      have htext : front ++ cs = front ++ before ++ (closing ++ after) := by
        rw [findMarker_eq_append hfound]
        simp
      have hescaped := backslashBefore_within front before (closing ++ after)
      have hslice := sliceAt_append front before (closing ++ after)
      rw [decide_eq_false hlast] at hescaped
      rw [contentAt_of_some hsome, readContent_of_close hfound hlast, htext, hescaped, hslice]
      show Except.ok (some (before, utf8Length (front ++ before) + utf8Length closing)) =
        Except.ok (some (before, _))
      have hposition : utf8Length (front ++ before) + utf8Length closing =
          utf8Length (front ++ before ++ (closing ++ after)) - utf8Length after := by
        simp only [Text.utf8Length_append]
        omega
      rw [hposition]
  | escape cs before after hfound ih =>
      have hsome : markerFrom? closing (front ++ cs) (utf8Length front) =
          some (utf8Length (front ++ (before ++ ['\\']))) := by
        rw [markerFrom?_append, hfound]
        rfl
      have htext : front ++ cs = front ++ (before ++ ['\\']) ++ (closing ++ after) := by
        rw [findMarker_eq_append hfound]
        simp
      have hescaped := backslashBefore_within front (before ++ ['\\']) (closing ++ after)
      have hslice := sliceAt_escaped front before (closing ++ after)
      have hothers := ih (front ++ (before ++ ['\\']) ++ closing)
      rw [List.append_assoc _ closing, Text.utf8Length_append _ closing] at hothers
      rw [List.getLast?_concat, decide_eq_true rfl] at hescaped
      rw [contentAt_of_some hsome, readContent_of_escape hfound, htext, hescaped]
      show (do
        let part ← sliceAt _ _ _
        let others ← contentAt closing hc _ _
        return others.map _) = _
      rw [hslice, hothers]
      show Except.ok _ = Except.ok _
      rw [Option.map_map, Option.map_map]
      rfl

end Contents

section Rounds

variable {m : Markers} {hm : m.usable} {text front cs before after content rest : List Char}
  {position : Nat} {round : Round}

/-- Every round begins behind the one before it. -/
theorem roundAt_next (h : m.roundAt hm text position = .ok (some round)) :
    position < round.next ∧ round.next ≤ utf8Length text := by
  rw [roundAt] at h
  split at h
  · cases h
  · next start hfound =>
      have hbounds := markerFrom?_bounds hfound
      have hpos := Text.utf8Length_pos hm.1
      rcases hround : m.markerAt hm text position start with reading | found <;> rw [hround] at h
      · cases h
      · obtain rfl : found = round := Option.some.inj (Except.ok.inj h)
        obtain ⟨escaped, -, hround⟩ := exists_of_bind_ok hround
        cases escaped with
        | true =>
            obtain ⟨before, -, hround⟩ := exists_of_bind_ok hround
            obtain rfl := Except.ok.inj hround
            show position < start + utf8Length m.opening ∧ start + utf8Length m.opening ≤ _
            omega
        | false =>
            obtain ⟨before, -, hround⟩ := exists_of_bind_ok hround
            obtain ⟨token, htoken, hround⟩ := exists_of_bind_ok hround
            rcases token with _ | ⟨content, next⟩
            · obtain ⟨others, -, hround⟩ := exists_of_bind_ok hround
              obtain rfl := Except.ok.inj hround
              show position < utf8Length text ∧ utf8Length text ≤ utf8Length text
              omega
            · obtain rfl := Except.ok.inj hround
              have hnext := contentAt_next htoken
              show position < next ∧ next ≤ utf8Length text
              omega

/-- Behind the last open marker there is no round. -/
theorem roundAt_of_none (h : findMarker m.opening cs = none) :
    m.roundAt hm (front ++ cs) (utf8Length front) = .ok none := by
  rw [roundAt, markerFrom?_append, h]
  rfl

/-- The character before an open marker says which round it begins. -/
private theorem roundAt_of_found (h : findMarker m.opening cs = some (before, after)) :
    m.roundAt hm (front ++ cs) (utf8Length front) =
      (if before.getLast?.or front.getLast? = some '\\' then
          m.escapedAt (front ++ cs) (utf8Length front) (utf8Length (front ++ before))
        else m.tokenAt hm (front ++ cs) (utf8Length front) (utf8Length (front ++ before))).map
        some := by
  have htext : front ++ cs = front ++ before ++ (m.opening ++ after) := by
    rw [findMarker_eq_append h]
    simp
  have hescaped : backslashBefore (front ++ cs) 0 (utf8Length (front ++ before)) =
      .ok (decide (before.getLast?.or front.getLast? = some '\\')) := by
    rw [htext, backslashBefore_start, List.getLast?_append]
  rw [roundAt, markerFrom?_append, h]
  show (m.markerAt hm (front ++ cs) (utf8Length front) (utf8Length (front ++ before))).map some = _
  rw [markerAt, hescaped]
  show Except.map some (if decide _ = true then _ else _) = _
  simp only [decide_eq_true_eq]

/-- An escaped open marker ends a literal. -/
theorem roundAt_of_escape (h : findMarker m.opening cs = some (before ++ ['\\'], after)) :
    m.roundAt hm (front ++ cs) (utf8Length front) =
      .ok (some { literal := before ++ m.opening, content := none,
                  next := utf8Length (front ++ (before ++ ['\\']) ++ m.opening) }) := by
  have htext : front ++ cs = front ++ (before ++ ['\\']) ++ (m.opening ++ after) := by
    rw [findMarker_eq_append h]
    simp
  have hslice := sliceAt_escaped front before (m.opening ++ after)
  rw [← htext] at hslice
  rw [roundAt_of_found h, if_pos (by simp), escapedAt, hslice, Text.utf8Length_append _ m.opening]
  rfl

/-- An open marker right behind a backslash that belongs to the marker before
leaves no room for a literal. -/
theorem roundAt_of_shared (h : findMarker m.opening cs = some ([], after))
    (hfront : front.getLast? = some '\\') :
    m.roundAt hm (front ++ cs) (utf8Length front) =
      .error (.slice (utf8Length front) (utf8Length front - 1)) := by
  have hne : front ≠ [] := by
    rintro rfl
    cases hfront
  have hpos := Text.utf8Length_pos hne
  have hinverted : sliceAt (front ++ cs) (utf8Length front) (utf8Length front - 1) =
      .error (.slice (utf8Length front) (utf8Length front - 1)) := sliceAt_inverted (by omega)
  rw [roundAt_of_found h, if_pos (by simpa using hfront), escapedAt, List.append_nil, hinverted]
  rfl

section Plain

variable (h : findMarker m.opening cs = some (before, after))
  (hlast : before.getLast?.or front.getLast? ≠ some '\\')

include h hlast

/-- At an open marker that is not escaped, the literal before it is sliced out
and the content behind it read. -/
private theorem roundAt_of_plain :
    m.roundAt hm (front ++ cs) (utf8Length front) =
      match readContent m.closing hm.2 after with
      | some (content, rest) =>
          .ok (some { literal := before, content := some content,
                      next := utf8Length (front ++ cs) - utf8Length rest })
      | none =>
          .ok (some { literal := cs, content := none, next := utf8Length (front ++ cs) }) := by
  have hcs := findMarker_eq_append h
  have htext : front ++ cs = front ++ before ++ (m.opening ++ after) := by
    rw [hcs]
    simp
  have hslice := sliceAt_append front before (m.opening ++ after)
  have htail := sliceAt_append (front ++ before) (m.opening ++ after) []
  have hcontent : contentAt m.closing hm.2 (front ++ before ++ m.opening ++ after)
      (utf8Length (front ++ before ++ m.opening)) = _ := contentAt_append _ after
  rw [← htext] at hslice
  rw [List.append_nil, ← htext] at htail
  rw [List.append_assoc _ m.opening, ← htext, Text.utf8Length_append _ m.opening] at hcontent
  rw [roundAt_of_found h, if_neg hlast, tokenAt, hslice, hcontent]
  rcases readContent m.closing hm.2 after with _ | ⟨content, rest⟩
  · show Except.map some (do
      let others ← sliceAt (front ++ cs) (utf8Length (front ++ before)) (utf8Length (front ++ cs))
      return ({ literal := before ++ others, content := none,
                next := utf8Length (front ++ cs) } : Round)) = _
    rw [htail]
    show Except.ok (some ({ literal := before ++ (m.opening ++ after), content := none,
                            next := utf8Length (front ++ cs) } : Round)) = _
    rw [← List.append_assoc, ← hcs]
  · rfl

/-- A token that is never closed stands in the last literal. -/
theorem roundAt_of_unclosed (hread : readContent m.closing hm.2 after = none) :
    m.roundAt hm (front ++ cs) (utf8Length front) =
      .ok (some { literal := cs, content := none, next := utf8Length (front ++ cs) }) := by
  rw [roundAt_of_plain h hlast, hread]

theorem roundAt_of_token (hread : readContent m.closing hm.2 after = some (content, rest)) :
    m.roundAt hm (front ++ cs) (utf8Length front) =
      .ok (some { literal := before, content := some content,
                  next := utf8Length (front ++ cs) - utf8Length rest }) := by
  rw [roundAt_of_plain h hlast, hread]

end Plain

end Rounds

/-! ## The whole scan -/

/-- The template that a round adds to. -/
def Round.before (round : Round) (t : Template) : Template :=
  match round.content with
  | some content => (t.prependToken content).prepend round.literal
  | none => t.prepend round.literal

/-- The rounds from a position on. -/
def scanAt (m : Markers) (hm : m.usable) (text : List Char) (position : Nat) :
    Except Reading Template :=
  match _h : m.roundAt hm text position with
  | .error reading => .error reading
  | .ok none =>
      if position < utf8Length text then
        (sliceAt text position (utf8Length text)).map Template.literal
      else .ok (.literal [])
  | .ok (some round) => (scanAt m hm text round.next).map round.before
termination_by utf8Length text - position
decreasing_by
  have := roundAt_next _h
  omega

/-- The literals and token contents of a template, by byte positions. -/
def scanBytes (m : Markers) (template : String) : Except Reading Template :=
  if hm : m.usable then m.scanAt hm template.toList 0 else .ok (.literal template.toList)

/-- The positions at which the scan of a text begins a round. -/
inductive Reaches (m : Markers) (hm : m.usable) (text : List Char) : Nat → Prop where
  | start : Reaches m hm text 0
  | next {position : Nat} {round : Round} : Reaches m hm text position →
      m.roundAt hm text position = .ok (some round) → Reaches m hm text round.next

/-- At the position stands an open marker, right behind a backslash. -/
def OpensBehindBackslash (m : Markers) (text : List Char) (position : Nat) : Prop :=
  ∃ front rest, text = front ++ m.opening ++ rest ∧ position = utf8Length front ∧
    front.getLast? = some '\\'

section Scans

variable {m : Markers} {hm : m.usable} {text front cs : List Char} {position : Nat}

private theorem scanAt_eq :
    m.scanAt hm text position =
      match m.roundAt hm text position with
      | .error reading => .error reading
      | .ok none =>
          if position < utf8Length text then
            (sliceAt text position (utf8Length text)).map Template.literal
          else .ok (.literal [])
      | .ok (some round) => (m.scanAt hm text round.next).map round.before := by
  rw [scanAt]
  split <;> next h => rw [h]

/-- Behind the last open marker all the rest is sliced out. -/
private theorem scanAt_of_none (h : m.roundAt hm (front ++ cs) (utf8Length front) = .ok none) :
    m.scanAt hm (front ++ cs) (utf8Length front) = .ok (.literal cs) := by
  rw [scanAt_eq, h]
  have htail := sliceAt_append front cs []
  rw [List.append_nil] at htail
  show (if _ then (sliceAt _ _ _).map _ else _) = _
  split
  · rw [htail]
    rfl
  · next hend =>
      have hcs : cs = [] := by
        rw [Text.utf8Length_append] at hend
        exact Text.utf8Length_eq_zero_iff.mp (by omega)
      rw [hcs]

/-- What a round at a position between characters can do: there is none, it
finds no room for its literal, or it ends at a position between characters,
behind a marker or at the end of the text. The scan does the same. -/
theorem roundAt_cases (m : Markers) (hm : m.usable) (front cs : List Char) :
    (m.roundAt hm (front ++ cs) (utf8Length front) = .ok none ∧
      m.scanFrom hm front.getLast? cs = .literal cs) ∨
    (m.roundAt hm (front ++ cs) (utf8Length front) =
        .error (.slice (utf8Length front) (utf8Length front - 1)) ∧
      m.OpensBehindBackslash (front ++ cs) (utf8Length front) ∧
      m.scanFrom hm front.getLast? cs = .broken) ∨
    ∃ round front' cs', m.roundAt hm (front ++ cs) (utf8Length front) = .ok (some round) ∧
      front ++ cs = front' ++ cs' ∧ round.next = utf8Length front' ∧
      (front'.getLast? = m.opening.getLast? ∨ front'.getLast? = m.closing.getLast? ∨ cs' = []) ∧
      m.scanFrom hm front.getLast? cs = round.before (m.scanFrom hm front'.getLast? cs') := by
  rcases hfound : findMarker m.opening cs with _ | ⟨before, after⟩
  · exact .inl ⟨roundAt_of_none hfound, scanFrom_of_none hfound⟩
  · have hcs := findMarker_eq_append hfound
    by_cases hlast : before.getLast?.or front.getLast? = some '\\'
    · refine .inr ?_
      rcases hb : before.getLast? with _ | c
      · -- the backslash belongs to the text before the round
        obtain rfl := List.getLast?_eq_none_iff.mp hb
        have hfront : front.getLast? = some '\\' := hlast
        exact .inl ⟨roundAt_of_shared hfound hfront, ⟨front, after, by simp [hcs], rfl, hfront⟩,
          scanFrom_of_shared hfound hfront⟩
      · obtain rfl : c = '\\' := by simpa [hb] using hlast
        obtain ⟨inner, rfl⟩ := List.getLast?_eq_some_iff.mp hb
        have hend : (front ++ (inner ++ ['\\']) ++ m.opening).getLast? = m.opening.getLast? :=
          List.getLast?_append_of_ne_nil _ hm.1
        refine .inr ⟨_, front ++ (inner ++ ['\\']) ++ m.opening, after, roundAt_of_escape hfound,
          by simp [hcs], rfl, .inl hend, ?_⟩
        rw [scanFrom_of_escape hfound, hend]
        rfl
    · refine .inr (.inr ?_)
      rcases hread : readContent m.closing hm.2 after with _ | ⟨content, rest⟩
      · have hnone : findMarker m.opening [] = none :=
          findMarker_eq_none_iff.mpr (by simpa using hm.1)
        refine ⟨_, front ++ cs, [], roundAt_of_unclosed hfound hlast hread, by simp, rfl,
          .inr (.inr rfl), ?_⟩
        rw [scanFrom_of_unclosed hfound hlast hread, scanFrom_of_none hnone]
        simp [Round.before, Template.prepend, Template.literal]
      · obtain ⟨passed, rfl⟩ := exists_of_readContent hread
        have hend : (front ++ before ++ m.opening ++ passed ++ m.closing).getLast? =
            m.closing.getLast? := List.getLast?_append_of_ne_nil _ hm.2
        refine ⟨_, front ++ before ++ m.opening ++ passed ++ m.closing, rest,
          roundAt_of_token hfound hlast hread, by simp [hcs], ?_, .inr (.inl hend), ?_⟩
        · simp only [hcs, Text.utf8Length_append]
          omega
        · rw [scanFrom_of_token hfound hlast hread, hend]
          rfl

@[simp] theorem Round.intact_before (round : Round) (t : Template) :
    (round.before t).intact = t.intact := by
  rw [Round.before]
  split <;> rfl

/-- A position at which a round begins lies between two characters, behind a
marker unless it is one of the ends of the text, and what the scan has passed
there does not tell whether it reaches the end. -/
theorem Reaches.split (h : m.Reaches hm text position) :
    ∃ front cs, text = front ++ cs ∧ position = utf8Length front ∧
      (front.getLast? = none ∨ front.getLast? = m.opening.getLast? ∨
        front.getLast? = m.closing.getLast? ∨ cs = []) ∧
      (m.scanFrom hm front.getLast? cs).intact = (m.scanFrom hm none text).intact := by
  induction h with
  | start => exact ⟨[], text, rfl, rfl, .inl rfl, rfl⟩
  | @next position round _ hround ih =>
      obtain ⟨front, cs, rfl, rfl, -, hintact⟩ := ih
      rcases roundAt_cases m hm front cs with
        ⟨hcase, -⟩ | ⟨hcase, -⟩ | ⟨round', front', cs', hcase, htext, hnext, hend, hscan⟩
      · rw [hround] at hcase
        cases hcase
      · rw [hround] at hcase
        cases hcase
      · rw [hround] at hcase
        obtain rfl := Option.some.inj (Except.ok.inj hcase)
        refine ⟨front', cs', htext, hnext, .inr hend, ?_⟩
        rw [← hintact, hscan, Round.intact_before]

/-- Where an open marker stands behind a backslash, the text behind the position
says what stands before it. -/
theorem OpensBehindBackslash.split (h : m.OpensBehindBackslash (front ++ cs) (utf8Length front)) :
    m.opening <+: cs ∧ front.getLast? = some '\\' := by
  obtain ⟨front', rest, htext, hposition, hlast⟩ := h
  rw [List.append_assoc] at htext
  obtain ⟨rfl, rfl⟩ := Text.append_inj_of_utf8Length htext hposition
  exact ⟨List.prefix_append _ _, hlast⟩

/-- At a position where a round begins, it fails exactly if an open marker
stands there behind a backslash. -/
theorem Reaches.roundAt_error_iff (h : m.Reaches hm text position) {reading : Reading} :
    m.roundAt hm text position = .error reading ↔
      m.OpensBehindBackslash text position ∧ reading = .slice position (position - 1) := by
  obtain ⟨front, cs, rfl, rfl, -, -⟩ := h.split
  constructor
  · intro herror
    rcases roundAt_cases m hm front cs with
      ⟨hcase, -⟩ | ⟨hcase, hopens, -⟩ | ⟨round', front', cs', hcase, -⟩ <;> rw [herror] at hcase
    · cases hcase
    · exact ⟨hopens, Except.error.inj hcase⟩
    · cases hcase
  · rintro ⟨hopens, rfl⟩
    obtain ⟨⟨rest, rfl⟩, hlast⟩ := hopens.split
    exact roundAt_of_shared (findMarker_append_self m.opening rest) hlast

/-- The scan by positions gives the template of the scan, or stops where an
open marker stands behind a backslash. -/
theorem scanAt_append (h : m.Reaches hm (front ++ cs) (utf8Length front)) :
    ((m.scanFrom hm front.getLast? cs).intact = true ∧
      m.scanAt hm (front ++ cs) (utf8Length front) = .ok (m.scanFrom hm front.getLast? cs)) ∨
    ∃ position, m.Reaches hm (front ++ cs) position ∧
      m.OpensBehindBackslash (front ++ cs) position ∧
      m.scanAt hm (front ++ cs) (utf8Length front) = .error (.slice position (position - 1)) := by
  induction hn : utf8Length cs using Nat.strong_induction_on generalizing front cs with
  | h n ih =>
      rcases roundAt_cases m hm front cs with
        ⟨hround, hscan⟩ | ⟨hround, hopens, -⟩ | ⟨round, front', cs', hround, htext, hnext, -, hscan⟩
      · refine .inl ⟨?_, ?_⟩
        · rw [hscan]
          rfl
        · rw [scanAt_of_none hround, hscan]
      · refine .inr ⟨utf8Length front, h, hopens, ?_⟩
        rw [scanAt_eq, hround]
      · have hbehind := (roundAt_next hround).1
        have hlength := congrArg utf8Length htext
        have hreach := h.next hround
        have hstep : m.scanAt hm (front ++ cs) (utf8Length front) =
            (m.scanAt hm (front ++ cs) round.next).map round.before := by
          rw [scanAt_eq, hround]
        rw [Text.utf8Length_append, Text.utf8Length_append] at hlength
        rw [hnext, htext] at hreach
        rw [hstep, hscan, hnext, htext, Round.intact_before]
        rcases ih (utf8Length cs') (by omega) hreach rfl with
          ⟨hintact, hok⟩ | ⟨position, hposition, hopens, herror⟩
        · refine .inl ⟨hintact, ?_⟩
          rw [hok]
          rfl
        · refine .inr ⟨position, hposition, hopens, ?_⟩
          rw [herror]
          rfl

/-- No scan reaches its end past an open marker behind a backslash. -/
theorem Reaches.not_intact (h : m.Reaches hm text position)
    (hopens : m.OpensBehindBackslash text position) :
    (m.scanFrom hm none text).intact = false := by
  obtain ⟨front, cs, rfl, rfl, -, hintact⟩ := h.split
  obtain ⟨⟨rest, rfl⟩, hlast⟩ := hopens.split
  rw [← hintact, scanFrom_of_shared (findMarker_append_self m.opening rest) hlast]
  rfl

/-- Between markers that do not end in a backslash, no round begins behind
one. -/
theorem Reaches.not_opens (h : m.Reaches hm text position) (ho : m.opening.getLast? ≠ some '\\')
    (hc : m.closing.getLast? ≠ some '\\') : ¬ m.OpensBehindBackslash text position := by
  intro hopens
  obtain ⟨front, cs, rfl, rfl, hend, -⟩ := h.split
  obtain ⟨hbegins, hlast⟩ := hopens.split
  rw [hlast] at hend
  rcases hend with hnone | hopening | hclosing | rfl
  · cases hnone
  · exact ho hopening.symm
  · exact hc hclosing.symm
  · exact hm.1 (List.prefix_nil.mp hbegins)

/-- The whole scan by positions gives the template of the scan, or stops where
an open marker stands behind a backslash. -/
theorem scanBytes_cases (m : Markers) (template : String) :
    ((m.scan template).intact = true ∧ m.scanBytes template = .ok (m.scan template)) ∨
    ∃ hm position, m.Reaches hm template.toList position ∧
      m.OpensBehindBackslash template.toList position ∧
      m.scanBytes template = .error (.slice position (position - 1)) := by
  rw [scanBytes, scan]
  split
  · next hm =>
      have hstart : m.Reaches hm ([] ++ template.toList) (utf8Length []) := .start
      rcases scanAt_append hstart with
        hok | ⟨position, hreach, hopens, herror⟩
      · exact .inl hok
      · exact .inr ⟨hm, position, hreach, hopens, herror⟩
  · exact .inl ⟨rfl, rfl⟩

end Scans

/-- A round begins behind the one before it, and all that it reads is in
range, unless an open marker stands where it begins, right behind a backslash:
then the slice before that backslash would end before it begins. The scan by
positions gives the template of the scan exactly if this happens nowhere, and
filling that template does nothing but ask for the contents. It cannot happen
between markers that do not end in a backslash. -/
theorem scanBytes_in_range (m : Markers) (template : String) :
    (∀ hm position, m.Reaches hm template.toList position →
      (∀ round, m.roundAt hm template.toList position = .ok (some round) →
        position < round.next ∧ round.next ≤ utf8Length template.toList) ∧
      ∀ reading, m.roundAt hm template.toList position = .error reading ↔
        m.OpensBehindBackslash template.toList position ∧
          reading = .slice position (position - 1)) ∧
    (m.scanBytes template = .ok (m.scan template) ↔
      ∀ hm position, m.Reaches hm template.toList position →
        ¬ m.OpensBehindBackslash template.toList position) ∧
    (∀ reading, m.scanBytes template = .error reading →
      ∃ hm position, m.Reaches hm template.toList position ∧
        m.OpensBehindBackslash template.toList position ∧
        reading = .slice position (position - 1)) ∧
    (m.scanBytes template = .ok (m.scan template) →
      ∀ {σ : Type} (handler : TokenHandler σ), m.replace template handler = do
        let replies ← (m.scan template).references.mapM handler
        return (m.scan template).woven replies) ∧
    (m.opening.getLast? ≠ some '\\' → m.closing.getLast? ≠ some '\\' →
      m.scanBytes template = .ok (m.scan template)) := by
  have hok : m.scanBytes template = .ok (m.scan template) ↔
      ∀ hm position, m.Reaches hm template.toList position →
        ¬ m.OpensBehindBackslash template.toList position := by
    rcases scanBytes_cases m template with
      ⟨hintact, hscan⟩ | ⟨hm, position, hreach, hopens, herror⟩
    · refine iff_of_true hscan ?_
      intro hm position hreach hopens
      rw [scan, dif_pos hm, hreach.not_intact hopens] at hintact
      cases hintact
    · refine iff_of_false ?_ (fun hnone => hnone hm position hreach hopens)
      rw [herror]
      intro heq
      cases heq
  refine ⟨?_, hok, ?_, ?_, ?_⟩
  · intro hm position hreach
    exact ⟨fun round hround => roundAt_next hround, fun reading => hreach.roundAt_error_iff⟩
  · intro reading herror
    rcases scanBytes_cases m template with
      ⟨-, hscan⟩ | ⟨hm, position, hreach, hopens, hslice⟩
    · rw [hscan] at herror
      cases herror
    · rw [hslice] at herror
      exact ⟨hm, position, hreach, hopens, (Except.error.inj herror).symm⟩
  · intro hscan σ handler
    rcases scanBytes_cases m template with ⟨hintact, -⟩ | ⟨hm, position, -, -, herror⟩
    · exact replace_of_intact hintact handler
    · rw [hscan] at herror
      cases herror
  · intro ho hc
    exact hok.mpr fun hm position hreach => hreach.not_opens ho hc

/-- The close marker of the first token ends in a backslash, and an open marker
follows: the slice that should be the literal between them ends at 3 and begins
at 4. -/
theorem scanBytes_token_behind_backslash :
    let m : Markers := { opening := ['#', '\x7b'], closing := ['\\'] }
    m.scanBytes "#\x7ba\\#\x7bb\\" = .error (.slice 4 3) ∧
      (m.replace "#\x7ba\\#\x7bb\\" fun content => return "[" ++ content ++ "]").run () =
        (.error (.builder (.brokenEscape "#\x7b")), ()) := by
  intro m
  have hscan : m.scan "#\x7ba\\#\x7bb\\" =
      { lead := [], tokens := [(['a'], [])], intact := false } := by decide +kernel
  refine ⟨by decide +kernel, ?_⟩
  rw [replace, hscan]
  rfl

/-- Three escaped markers, two of them one behind the other: every reading is
in range. -/
theorem scanBytes_in_range_escaped :
    Markers.default.scanBytes "\\#\x7b\\#\x7b#\x7ba\\\x7db\x7d" =
      .ok (Markers.default.scan "\\#\x7b\\#\x7b#\x7ba\\\x7db\x7d") ∧
      (Markers.default.scan "\\#\x7b\\#\x7b#\x7ba\\\x7db\x7d").references = ["a\x7db"] := by
  obtain ⟨-, -, -, -, hplain⟩ :=
    scanBytes_in_range Markers.default "\\#\x7b\\#\x7b#\x7ba\\\x7db\x7d"
  exact ⟨hplain (by decide) (by decide), by decide +kernel⟩

end Markers

end SqlMapper
