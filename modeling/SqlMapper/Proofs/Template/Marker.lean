import SqlMapper.Proofs.Text.Segments
import SqlMapper.Template.Scan

/-!
# Occurrences of a marker

A search finds the first occurrence of a marker. If the marker does not
overlap itself, its occurrences in a text are apart from each other, so a
text falls into stretches without the marker and the markers between them.
Writing a backslash before every one of them is undone stretch by stretch.

## Main definitions

* `Unbordered` — no part of the marker is both its start and its end.
* `Escapable` — the markers that can be escaped.
* `Fresh` — behind this text, a marker is its own first occurrence.
* `escape` — the text with a backslash before every occurrence.

## Main results

* `findMarker_of_fresh` — the search stops at a fresh marker.
* `induction_on_marker` — induction over the stretches of a text.
* `escape_append_marker` — escaping goes stretch by stretch.
-/

namespace SqlMapper

/-- No part of the marker is both its start and its end, but for nothing and
all of it. -/
def Unbordered (marker : List Char) : Prop :=
  ∀ part, part <+: marker → part <:+ marker → part = [] ∨ part = marker

instance (marker : List Char) : Decidable (Unbordered marker) :=
  decidable_of_iff (∀ part ∈ marker.inits, part <:+ marker → part = [] ∨ part = marker)
    (by simp [Unbordered, List.mem_inits])

/-- A marker that a backslash can be written before: it is there to be found,
holds no backslash of its own and does not overlap itself. -/
structure Escapable (marker : List Char) : Prop where
  ne_nil : marker ≠ []
  plain : '\\' ∉ marker
  unbordered : Unbordered marker

/-- A marker behind this text is its own first occurrence. -/
def Fresh (marker before : List Char) : Prop :=
  ∀ earlier later, before ++ marker = earlier ++ marker ++ later → later = []

section Occurrences

variable {marker before after cs : List Char}

/-! ## First occurrences -/

theorem Fresh.tail {c : Char} (h : Fresh marker (c :: before)) : Fresh marker before := by
  intro earlier later heq
  apply h (c :: earlier) later
  simp [heq]

/-- A fresh marker does not begin any earlier. -/
theorem Fresh.not_isPrefix {c : Char} (h : Fresh marker (c :: before)) :
    ¬ marker <+: c :: before ++ marker ++ after := by
  intro hpre
  have hshort : marker <+: c :: before ++ marker :=
    List.prefix_of_prefix_length_le hpre (List.prefix_append _ _) (by simp; omega)
  obtain ⟨later, hlater⟩ := hshort
  have hnil : later = [] := h [] later (by simpa using hlater.symm)
  have hlen := congrArg List.length hlater
  simp only [hnil, List.append_nil, List.length_append, List.length_cons] at hlen
  omega

/-- If the marker does not overlap itself, it is fresh behind every text that
it does not occur in. -/
theorem Fresh.of_not_isInfix (hu : Unbordered marker) (h : ¬ marker <:+: before) :
    Fresh marker before := by
  intro earlier later heq
  rw [List.append_assoc] at heq
  rcases List.append_eq_append_iff.mp heq with ⟨gap, rfl, hgap⟩ | ⟨part, rfl, hpart⟩
  · have hlen := congrArg List.length hgap
    simp only [List.length_append] at hlen
    exact List.length_eq_zero_iff.mp (by omega)
  · -- The occurrence begins in `before`: its first part lies there, and what
    -- is left of it is both the start and the end of the marker.
    rcases List.append_eq_append_iff.mp hpart with ⟨overlap, rfl, hoverlap⟩ | ⟨rest, hm, hrest⟩
    · exact absurd ⟨earlier, overlap, by simp⟩ h
    · have hstart : rest <+: marker := ⟨later, hrest.symm⟩
      have hend : rest <:+ marker := ⟨part, hm.symm⟩
      rcases hu rest hstart hend with rfl | rfl
      · exact absurd ⟨earlier, [], by simp [hm]⟩ h
      · simpa using hrest

/-- Behind a character that is not in the marker, the marker is fresh if it
does not occur before that character. -/
theorem Fresh.concat {c : Char} (hc : c ∉ marker) (h : ¬ marker <:+: before) :
    Fresh marker (before ++ [c]) := by
  intro earlier later heq
  rw [List.append_assoc, List.append_assoc] at heq
  rcases List.append_eq_append_iff.mp heq with ⟨gap, rfl, hgap⟩ | ⟨part, rfl, hpart⟩
  · cases gap with
    | nil =>
        cases marker with
        | nil => exact absurd ⟨before, [], by simp⟩ h
        | cons m ms =>
            obtain rfl : c = m := by simpa using congrArg List.head? hgap
            simp at hc
    | cons g gap =>
        have hlen := congrArg List.length hgap
        simp only [List.length_append, List.length_cons, List.length_nil] at hlen
        exact List.length_eq_zero_iff.mp (by omega)
  · rcases List.append_eq_append_iff.mp hpart with ⟨overlap, rfl, -⟩ | ⟨rest, hm, hrest⟩
    · exact absurd ⟨earlier, overlap, by simp⟩ h
    · cases rest with
      | nil => exact absurd ⟨earlier, [], by simp [hm]⟩ h
      | cons r rest =>
          obtain rfl : c = r := by simpa using congrArg List.head? hrest
          simp [hm] at hc

/-! ## Searching -/

/-- A text that begins with the marker is searched no further. -/
theorem findMarker_append_self (marker after : List Char) :
    findMarker marker (marker ++ after) = some ([], after) := by
  have hdrop : Text.dropPrefix? marker (marker ++ after) = some after :=
    Text.dropPrefix?_eq_some_iff.mpr rfl
  unfold findMarker
  rw [hdrop]

/-- The search stops at a fresh marker. -/
theorem findMarker_of_fresh (h : Fresh marker before) :
    findMarker marker (before ++ marker ++ after) = some (before, after) := by
  induction before with
  | nil => exact findMarker_append_self marker after
  | cons c before ih =>
      have hnone : Text.dropPrefix? marker (c :: before ++ marker ++ after) = none :=
        Text.dropPrefix?_eq_none_iff.mpr h.not_isPrefix
      unfold findMarker
      rw [hnone]
      show (findMarker marker (before ++ marker ++ after)).map _ = _
      rw [ih h.tail]
      rfl

/-- Nothing is found exactly where the marker does not occur. -/
theorem findMarker_eq_none_iff : findMarker marker cs = none ↔ ¬ marker <:+: cs := by
  induction cs with
  | nil =>
      unfold findMarker
      rcases hd : Text.dropPrefix? marker [] with _ | rest
      · have := Text.dropPrefix?_eq_none_iff.mp hd
        simpa using this
      · have := Text.dropPrefix?_eq_some_iff.mp hd
        simp_all
  | cons c cs ih =>
      unfold findMarker
      rw [List.infix_cons_iff]
      rcases hd : Text.dropPrefix? marker (c :: cs) with _ | rest
      · simp [ih, Text.dropPrefix?_eq_none_iff.mp hd]
      · have hpre : marker <+: c :: cs := ⟨rest, (Text.dropPrefix?_eq_some_iff.mp hd).symm⟩
        simp [hpre]

/-- Before what the search finds the marker does not occur. -/
theorem not_isInfix_of_findMarker (hm : marker ≠ [])
    (h : findMarker marker cs = some (before, after)) : ¬ marker <:+: before := by
  induction cs generalizing before with
  | nil =>
      have heq := findMarker_eq_append h
      simp_all
  | cons c cs ih =>
      unfold findMarker at h
      rcases hd : Text.dropPrefix? marker (c :: cs) with _ | rest <;> rw [hd] at h
      · rw [Option.map_eq_some_iff] at h
        obtain ⟨⟨stretch, rest⟩, hfound, heq⟩ := h
        obtain ⟨rfl, rfl⟩ := Prod.mk.inj heq
        rw [List.infix_cons_iff]
        rintro (hpre | hin)
        · apply Text.dropPrefix?_eq_none_iff.mp hd
          rw [findMarker_eq_append hfound]
          exact hpre.trans ⟨marker ++ rest, by simp⟩
        · exact ih hfound hin
      · obtain ⟨rfl, rfl⟩ := Prod.mk.inj (Option.some.inj h)
        simpa using hm

/-- Induction over the stretches of a text: it holds of texts without the
marker, and a stretch and a marker may be put in front. -/
theorem induction_on_marker {P : List Char → Prop} (hm : marker ≠ [])
    (plain : ∀ cs, ¬ marker <:+: cs → P cs)
    (step : ∀ stretch rest, ¬ marker <:+: stretch → P rest → P (stretch ++ marker ++ rest))
    (cs : List Char) : P cs := by
  induction hn : cs.length using Nat.strong_induction_on generalizing cs with
  | h n ih =>
      rcases hf : findMarker marker cs with _ | ⟨stretch, rest⟩
      · exact plain cs (findMarker_eq_none_iff.mp hf)
      · rw [findMarker_eq_append hf]
        apply step stretch rest (not_isInfix_of_findMarker hm hf)
        exact ih rest.length (hn ▸ findMarker_length hm hf) rest rfl

end Occurrences

/-! ## Escaping -/

/-- The text with a backslash before every occurrence of the marker. -/
def escape (marker : List Char) : List Char → List Char
  | [] => []
  | c :: cs =>
      if Text.startsWith marker (c :: cs) then '\\' :: c :: escape marker cs
      else c :: escape marker cs

section Escaping

variable {marker stretch rest : List Char}

private theorem escape_cons_of_not_isPrefix {c : Char} {cs : List Char}
    (h : ¬ marker <+: c :: cs) : escape marker (c :: cs) = c :: escape marker cs := by
  rw [escape, if_neg (by rwa [Text.startsWith_iff])]

/-- A text without the marker is its own escaped form. -/
theorem escape_of_not_isInfix {cs : List Char} (h : ¬ marker <:+: cs) : escape marker cs = cs := by
  induction cs with
  | nil => rfl
  | cons c cs ih =>
      rw [List.infix_cons_iff, not_or] at h
      rw [escape_cons_of_not_isPrefix h.1, ih h.2]

/-- No occurrence begins inside an occurrence. -/
private theorem escape_inside (front back : List Char) (hu : Unbordered marker)
    (hf : front ≠ []) (hm : marker = front ++ back) :
    escape marker (back ++ rest) = back ++ escape marker rest := by
  induction back generalizing front with
  | nil => rfl
  | cons b back ih =>
      have hnot : ¬ marker <+: b :: (back ++ rest) := by
        intro hpre
        have hstart : b :: back <+: marker :=
          List.prefix_of_prefix_length_le (List.prefix_append _ rest) hpre (by simp [hm])
        rcases hu (b :: back) hstart ⟨front, hm.symm⟩ with hnil | hall
        · cases hnil
        · have hlen := congrArg List.length (hall.trans hm)
          have hpos := List.length_pos_iff.mpr hf
          simp only [List.length_append] at hlen
          omega
      rw [List.cons_append, escape_cons_of_not_isPrefix hnot,
        ih (front ++ [b]) (by simp) (by simp [hm])]
      rfl

/-- Escaping goes stretch by stretch. -/
theorem escape_append_marker (h : Escapable marker) (hs : ¬ marker <:+: stretch) :
    escape marker (stretch ++ marker ++ rest) =
      stretch ++ ['\\'] ++ marker ++ escape marker rest := by
  have hfresh := Fresh.of_not_isInfix h.unbordered hs
  clear hs
  induction stretch with
  | nil =>
      obtain ⟨m, ms, rfl⟩ := List.exists_cons_of_ne_nil h.ne_nil
      have hpre : m :: ms <+: m :: (ms ++ rest) := ⟨rest, rfl⟩
      show escape (m :: ms) (m :: (ms ++ rest)) = _
      rw [escape, if_pos (Text.startsWith_iff.mpr hpre),
        escape_inside [m] ms h.unbordered (by simp) rfl]
      rfl
  | cons c stretch ih =>
      have hnot : ¬ marker <+: c :: (stretch ++ marker ++ rest) := hfresh.not_isPrefix
      show escape marker (c :: (stretch ++ marker ++ rest)) = _
      rw [escape_cons_of_not_isPrefix hnot, ih hfresh.tail]
      rfl

end Escaping

end SqlMapper
