import SqlMapper.Proofs.Template.Marker

/-!
# The scan, round by round

The scan looks for the next marker and goes on in one of a few ways. Each way
is one equation here, under what the search found, so that no proof about the
scan has to open its recursion again.

## Main results

* `readContent_of_close`, `readContent_of_escape` — a content ends at the
  first close marker without a backslash before it.
* `scanFrom_of_none`, `scanFrom_of_unclosed` — the scan ends.
* `scanFrom_of_escape`, `scanFrom_of_token` — the scan goes on behind a marker.
* `scanFrom_of_shared` — the scan stops where an open marker follows directly
  on a marker that ends in a backslash.
* `induction_on_content`, `induction_on_rounds` — induction that has one case
  for each of these ways.
-/

namespace SqlMapper

namespace Markers

section Contents

variable {closing cs before after : List Char} {hc : closing ≠ []}

theorem readContent_of_none (h : findMarker closing cs = none) :
    readContent closing hc cs = none := by
  rw [readContent]
  split
  · rfl
  · next hsome =>
      rw [h] at hsome
      cases hsome

/-- A close marker without a backslash before it ends the content. -/
theorem readContent_of_close (h : findMarker closing cs = some (before, after))
    (hlast : before.getLast? ≠ some '\\') :
    readContent closing hc cs = some (before, after) := by
  rw [readContent]
  split
  · next hnone =>
      rw [h] at hnone
      cases hnone
  · next b a hsome =>
      rw [h] at hsome
      obtain ⟨rfl, rfl⟩ := Prod.mk.inj (Option.some.inj hsome)
      rw [if_neg hlast]

/-- A close marker with a backslash before it is part of the content. -/
theorem readContent_of_escape (h : findMarker closing cs = some (before ++ ['\\'], after)) :
    readContent closing hc cs =
      (readContent closing hc after).map fun (content, rest) =>
        (before ++ closing ++ content, rest) := by
  rw [readContent]
  split
  · next hnone =>
      rw [h] at hnone
      cases hnone
  · next b a hsome =>
      rw [h] at hsome
      obtain ⟨rfl, rfl⟩ := Prod.mk.inj (Option.some.inj hsome)
      rw [if_pos List.getLast?_concat, List.dropLast_concat]

end Contents

section Rounds

variable {m : Markers} {hm : m.usable} {previous : Option Char}
  {cs before after content rest : List Char}

theorem scanFrom_of_none (h : findMarker m.opening cs = none) :
    scanFrom m hm previous cs = .literal cs := by
  rw [scanFrom]
  split
  · rfl
  · next hsome =>
      rw [h] at hsome
      cases hsome

/-- An open marker with a backslash before it is part of the literal. -/
theorem scanFrom_of_escape (h : findMarker m.opening cs = some (before ++ ['\\'], after)) :
    scanFrom m hm previous cs =
      (scanFrom m hm m.opening.getLast? after).prepend (before ++ m.opening) := by
  rw [scanFrom]
  split
  · next hnone =>
      rw [h] at hnone
      cases hnone
  · next b a hsome =>
      rw [h] at hsome
      obtain ⟨rfl, rfl⟩ := Prod.mk.inj (Option.some.inj hsome)
      simp

/-- An open marker right behind a backslash that belongs to the marker before
stops the scan. -/
theorem scanFrom_of_shared (h : findMarker m.opening cs = some ([], after))
    (hprevious : previous = some '\\') : scanFrom m hm previous cs = .broken := by
  rw [scanFrom]
  split
  · next hnone =>
      rw [h] at hnone
      cases hnone
  · next b a hsome =>
      rw [h] at hsome
      obtain ⟨rfl, rfl⟩ := Prod.mk.inj (Option.some.inj hsome)
      simp [hprevious]

/-- A token that is never closed is part of the last literal. -/
theorem scanFrom_of_unclosed (h : findMarker m.opening cs = some (before, after))
    (hlast : before.getLast?.or previous ≠ some '\\')
    (hread : readContent m.closing hm.2 after = none) :
    scanFrom m hm previous cs = .literal cs := by
  rw [scanFrom]
  split
  · rfl
  · next b a hsome =>
      rw [h] at hsome
      obtain ⟨rfl, rfl⟩ := Prod.mk.inj (Option.some.inj hsome)
      rw [if_neg hlast]
      split
      · rfl
      · next c r hread' =>
          rw [hread] at hread'
          cases hread'

theorem scanFrom_of_token (h : findMarker m.opening cs = some (before, after))
    (hlast : before.getLast?.or previous ≠ some '\\')
    (hread : readContent m.closing hm.2 after = some (content, rest)) :
    scanFrom m hm previous cs =
      ((scanFrom m hm m.closing.getLast? rest).prependToken content).prepend before := by
  rw [scanFrom]
  split
  · next hnone =>
      rw [h] at hnone
      cases hnone
  · next b a hsome =>
      rw [h] at hsome
      obtain ⟨rfl, rfl⟩ := Prod.mk.inj (Option.some.inj hsome)
      rw [if_neg hlast]
      split
      · next hnone =>
          rw [hread] at hnone
          cases hnone
      · next c r hsome =>
          rw [hread] at hsome
          obtain ⟨rfl, rfl⟩ := Prod.mk.inj (Option.some.inj hsome)
          rfl

end Rounds

/-! ## Induction over the rounds -/

/-- Induction over the close markers that a content passes. -/
theorem induction_on_content {closing : List Char} (hc : closing ≠ []) {P : List Char → Prop}
    (unclosed : ∀ cs, findMarker closing cs = none → P cs)
    (close : ∀ cs before after, findMarker closing cs = some (before, after) →
      before.getLast? ≠ some '\\' → P cs)
    (escape : ∀ cs before after, findMarker closing cs = some (before ++ ['\\'], after) →
      P after → P cs)
    (cs : List Char) : P cs := by
  induction cs using readContent.induct closing hc with
  | case1 cs hfound => exact unclosed cs hfound
  | case2 cs before after hfound hlast ih =>
      obtain ⟨inner, rfl⟩ := List.getLast?_eq_some_iff.mp hlast
      exact escape cs inner after hfound ih
  | case3 cs before after hfound hlast => exact close cs before after hfound hlast

/-- A content is followed by its close marker. -/
theorem exists_of_readContent {closing cs content rest : List Char} {hc : closing ≠ []}
    (h : readContent closing hc cs = some (content, rest)) :
    ∃ passed, cs = passed ++ closing ++ rest := by
  induction cs using induction_on_content hc generalizing content with
  | unclosed cs hfound =>
      rw [readContent_of_none hfound] at h
      cases h
  | close cs before after hfound hlast =>
      rw [readContent_of_close hfound hlast] at h
      obtain ⟨rfl, rfl⟩ := Prod.mk.inj (Option.some.inj h)
      exact ⟨before, findMarker_eq_append hfound⟩
  | escape cs before after hfound ih =>
      rw [readContent_of_escape hfound, Option.map_eq_some_iff] at h
      obtain ⟨⟨inner, left⟩, hinner, heq⟩ := h
      obtain ⟨-, rfl⟩ := Prod.mk.inj heq
      obtain ⟨passed, rfl⟩ := ih hinner
      refine ⟨before ++ ['\\'] ++ closing ++ passed, ?_⟩
      rw [findMarker_eq_append hfound]
      simp only [List.append_assoc]

/-- Induction over the rounds of a scan. -/
theorem induction_on_rounds {m : Markers} (hm : m.usable) {P : Option Char → List Char → Prop}
    (none : ∀ previous cs, findMarker m.opening cs = none → P previous cs)
    (shared : ∀ cs after, findMarker m.opening cs = some ([], after) → P (some '\\') cs)
    (escape : ∀ previous cs before after,
      findMarker m.opening cs = some (before ++ ['\\'], after) →
      P m.opening.getLast? after → P previous cs)
    (unclosed : ∀ previous cs before after, findMarker m.opening cs = some (before, after) →
      before.getLast?.or previous ≠ some '\\' → readContent m.closing hm.2 after = .none →
      P previous cs)
    (token : ∀ previous cs before after content rest,
      findMarker m.opening cs = some (before, after) →
      before.getLast?.or previous ≠ some '\\' →
      readContent m.closing hm.2 after = some (content, rest) →
      P m.closing.getLast? rest → P previous cs)
    (previous : Option Char) (cs : List Char) : P previous cs := by
  induction previous, cs using scanFrom.induct m hm with
  | case1 previous cs hfound => exact none previous cs hfound
  | case2 previous cs before after hfound hlast hempty =>
      obtain rfl := List.isEmpty_iff.mp hempty
      obtain rfl : previous = some '\\' := hlast
      exact shared cs after hfound
  | case3 previous cs before after hfound hlast hempty ih =>
      -- a stretch that is not empty ends in the backslash itself
      cases hb : before.getLast? with
      | none => exact absurd (List.isEmpty_iff.mpr (List.getLast?_eq_none_iff.mp hb)) hempty
      | some c =>
          obtain rfl : c = '\\' := by simpa [hb] using hlast
          obtain ⟨inner, rfl⟩ := List.getLast?_eq_some_iff.mp hb
          exact escape previous cs inner after hfound ih
  | case4 previous cs before after hfound hlast hread =>
      exact unclosed previous cs before after hfound hlast hread
  | case5 previous cs before after hfound hlast content rest hread ih =>
      exact token previous cs before after content rest hfound hlast hread ih

end Markers

end SqlMapper
