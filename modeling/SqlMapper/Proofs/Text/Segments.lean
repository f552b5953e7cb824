import Mathlib.Data.List.Infix
import SqlMapper.Text.Segments

/-!
# Cutting texts where there is nothing to cut

## Main results

* `startsWith_iff` — beginning with a text is having it as a prefix.
* `splitAt_of_not_mem`, `cutFirst_of_not_mem`, `cutLast_eq_none_iff` — texts
  without the separator.
* `cutFirst_eq_some_iff`, `dropSuffix?_eq_some_iff` — what a cut at the first
  separator gives, and what precedes a given end.
* `not_mem_of_cutLast`, `eq_append_of_cutLast`, `cutLast_append` — a cut at the
  last separator: what stands behind it has none.
* `splitAt_filter`, `takeWhile_ne_filter` — texts that lose characters.
-/

namespace SqlMapper.Text

variable {sep : Char} {start cs before after : List Char}

/-! ## Prefixes -/

theorem dropPrefix?_eq_none_iff : dropPrefix? start cs = none ↔ ¬ start <+: cs := by
  constructor
  · rintro h ⟨rest, rfl⟩
    rw [dropPrefix?_eq_some_iff.mpr rfl] at h
    cases h
  · intro h
    cases hd : dropPrefix? start cs with
    | none => rfl
    | some rest => exact absurd ⟨rest, (dropPrefix?_eq_some_iff.mp hd).symm⟩ h

theorem startsWith_iff : startsWith start cs = true ↔ start <+: cs := by
  rw [startsWith, Option.isSome_iff_ne_none, ne_eq, dropPrefix?_eq_none_iff, not_not]

/-! ## Texts without the separator -/

theorem splitAt_of_not_mem (h : sep ∉ cs) : splitAt sep cs = [cs] := by
  induction cs with
  | nil => rfl
  | cons c cs ih =>
      rw [List.mem_cons, not_or] at h
      rw [splitAt, if_neg (Ne.symm h.1), ih h.2]

theorem cutFirst_of_not_mem (h : sep ∉ cs) : cutFirst sep cs = none := by
  induction cs with
  | nil => rfl
  | cons c cs ih =>
      rw [List.mem_cons, not_or] at h
      rw [cutFirst, if_neg (Ne.symm h.1), ih h.2]
      rfl

/-- A cut at the first separator loses nothing but the separator, and before it
there is none. -/
theorem cutFirst_eq_some_iff :
    cutFirst sep cs = some (before, after) ↔ cs = before ++ sep :: after ∧ sep ∉ before := by
  induction cs generalizing before with
  | nil => simp [cutFirst]
  | cons c cs ih =>
      by_cases hc : c = sep
      · subst hc
        cases before with
        | nil => simp [cutFirst]
        | cons b before =>
            rw [cutFirst, if_pos rfl]
            constructor
            · intro h
              cases h
            · rintro ⟨heq, hnot⟩
              obtain ⟨rfl, -⟩ := List.cons.inj heq
              exact absurd List.mem_cons_self hnot
      · rw [cutFirst, if_neg hc, Option.map_eq_some_iff]
        constructor
        · rintro ⟨⟨b, a⟩, hcut, heq⟩
          obtain ⟨rfl, rfl⟩ := Prod.mk.inj heq
          obtain ⟨rfl, hnot⟩ := ih.mp hcut
          exact ⟨rfl, by simp [hnot, Ne.symm hc]⟩
        · rintro ⟨heq, hnot⟩
          cases before with
          | nil => exact absurd (List.cons.inj heq).1 hc
          | cons b before =>
              obtain ⟨rfl, rfl⟩ := List.cons.inj heq
              rw [List.mem_cons, not_or] at hnot
              exact ⟨(before, after), ih.mpr ⟨rfl, hnot.2⟩, rfl⟩

theorem dropSuffix?_eq_some_iff {tail rest : List Char} :
    dropSuffix? tail cs = some rest ↔ cs = rest ++ tail := by
  rw [dropSuffix?, Option.map_eq_some_iff]
  constructor
  · rintro ⟨reversed, hdrop, rfl⟩
    have hcs := congrArg List.reverse (dropPrefix?_eq_some_iff.mp hdrop)
    simpa using hcs
  · rintro rfl
    refine ⟨rest.reverse, dropPrefix?_eq_some_iff.mpr ?_, List.reverse_reverse rest⟩
    rw [List.reverse_append]

theorem cutLast_eq_none_iff : cutLast sep cs = none ↔ sep ∉ cs := by
  induction cs with
  | nil => simp [cutLast]
  | cons c cs ih =>
      rw [cutLast, List.mem_cons, not_or]
      rcases hrest : cutLast sep cs with _ | ⟨b, a⟩
      · by_cases hc : c = sep
        · simp [hc]
        · simp [hc, Ne.symm hc, ih.mp hrest]
      · have hmem : sep ∈ cs := by
          by_contra hnot
          rw [ih.mpr hnot] at hrest
          cases hrest
        simp [hmem]

/-- Behind the last separator there is none. -/
theorem not_mem_of_cutLast (h : cutLast sep cs = some (before, after)) : sep ∉ after := by
  induction cs generalizing before after with
  | nil => cases h
  | cons c cs ih =>
      rw [cutLast] at h
      rcases hrest : cutLast sep cs with _ | ⟨b, a⟩ <;> rw [hrest] at h
      · by_cases hc : c = sep
        · simp only [hc, if_true, Option.some.injEq, Prod.mk.injEq] at h
          exact h.2 ▸ cutLast_eq_none_iff.mp hrest
        · simp [hc] at h
      · obtain ⟨rfl, rfl⟩ := Prod.mk.inj (Option.some.inj h)
        exact ih hrest

/-- A cut loses nothing but the separator. -/
theorem eq_append_of_cutLast (h : cutLast sep cs = some (before, after)) :
    cs = before ++ sep :: after := by
  induction cs generalizing before after with
  | nil => cases h
  | cons c cs ih =>
      rw [cutLast] at h
      rcases hrest : cutLast sep cs with _ | ⟨b, a⟩ <;> rw [hrest] at h
      · by_cases hc : c = sep
        · simp only [hc, if_true, Option.some.injEq, Prod.mk.injEq] at h
          simp [hc, h.1.symm, h.2.symm]
        · simp [hc] at h
      · obtain ⟨rfl, rfl⟩ := Prod.mk.inj (Option.some.inj h)
        rw [ih hrest, List.cons_append]

/-- A separator behind which there is none is the last one. -/
theorem cutLast_append (h : sep ∉ after) :
    cutLast sep (before ++ sep :: after) = some (before, after) := by
  induction before with
  | nil =>
      have hnone : cutLast sep after = none := cutLast_eq_none_iff.mpr h
      rw [List.nil_append, cutLast, hnone]
      exact if_pos rfl
  | cons c before ih => rw [List.cons_append, cutLast, ih]

/-! ## Texts that lose characters -/

/-- The pieces of a text lose the same characters as the text. -/
theorem splitAt_filter {keep : Char → Bool} (h : keep sep = true) :
    splitAt sep (cs.filter keep) = (splitAt sep cs).map (List.filter keep) := by
  induction cs with
  | nil => rfl
  | cons c cs ih =>
      by_cases hsep : c = sep
      · subst hsep
        rw [List.filter_cons_of_pos h, splitAt, splitAt, if_pos rfl, if_pos rfl, ih]
        rfl
      · obtain ⟨piece, pieces, hpieces⟩ := List.exists_cons_of_ne_nil (splitAt_ne_nil sep cs)
        rw [hpieces] at ih
        by_cases hkeep : keep c = true
        · rw [List.filter_cons_of_pos hkeep]
          simp [splitAt, hsep, ih, hpieces, hkeep]
        · rw [List.filter_cons_of_neg hkeep, ih]
          simp [splitAt, hsep, hpieces, hkeep]

/-- What stands before the first separator, or all of a text without one. -/
theorem cutFirst_fst : ((cutFirst sep cs).map Prod.fst).getD cs = cs.takeWhile (· ≠ sep) := by
  induction cs with
  | nil => rfl
  | cons c cs ih =>
      rw [cutFirst]
      by_cases hsep : c = sep
      · simp [hsep]
      · rw [if_neg hsep, List.takeWhile_cons_of_pos (by simpa using hsep), ← ih]
        cases cutFirst sep cs <;> rfl

/-- What stands before the first separator loses the same characters as the text. -/
theorem takeWhile_ne_filter {keep : Char → Bool} (h : keep sep = true) :
    (cs.filter keep).takeWhile (· ≠ sep) = (cs.takeWhile (· ≠ sep)).filter keep := by
  rw [List.takeWhile_filter]
  congr 2
  funext c
  by_cases hkeep : keep c = true
  · simp [hkeep]
  · have hsep : c ≠ sep := by
      rintro rfl
      exact hkeep h
    simp [hsep]

end SqlMapper.Text
