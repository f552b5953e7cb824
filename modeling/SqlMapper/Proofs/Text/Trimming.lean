import Mathlib.Data.List.TakeWhile
import SqlMapper.Proofs.Text.Squeeze

/-!
# Trimming texts that have blanks around them

## Main results

* `trimChars_between` — blanks around a text are trimmed away.
* `trimChars_of_ends` — a text that begins and ends with characters that are not
  blank is trimmed already.
* `mem_of_mem_trimChars` — trimming adds nothing.
-/

namespace SqlMapper.Text

variable {front cs back : List Char}

/-- Every character is blank. -/
abbrev Blank (cs : List Char) : Prop := ∀ c ∈ cs, isBlank c = true

/-- A character that is not blank is in no blank text. -/
theorem not_mem_of_blank {c : Char} (hblank : Blank cs) (hc : isBlank c = false) : c ∉ cs := by
  intro hmem
  rw [hblank c hmem] at hc
  cases hc

theorem trimStart_append (hfront : Blank front) (cs : List Char) :
    trimStart (front ++ cs) = trimStart cs :=
  List.dropWhile_append_of_pos hfront

theorem trimEnd_append (cs : List Char) (hback : Blank back) : trimEnd (cs ++ back) = trimEnd cs := by
  have hreversed : ∀ c ∈ back.reverse, isBlank c = true := by
    intro c hc
    exact hback c (List.mem_reverse.mp hc)
  unfold trimEnd
  rw [List.reverse_append, List.dropWhile_append_of_pos hreversed]

/-- Blanks around a text are trimmed away. -/
theorem trimChars_between (hfront : Blank front) (cs : List Char) (hback : Blank back) :
    trimChars (front ++ cs ++ back) = trimChars cs := by
  unfold trimChars
  rw [List.append_assoc, trimStart_append hfront]
  unfold trimStart
  rw [List.dropWhile_append]
  split
  · next hall =>
      -- nothing but blanks: the ones at the end go as well
      have hnone : back.dropWhile isBlank = [] := List.dropWhile_eq_nil_iff.mpr hback
      rw [hnone, List.isEmpty_iff.mp hall]
  · exact trimEnd_append _ hback

/-- A text that begins and ends with characters that are not blank is trimmed
already. -/
theorem trimChars_of_ends {c d : Char} (hc : isBlank c = false) (hd : isBlank d = false)
    (cs : List Char) : trimChars (c :: cs ++ [d]) = c :: cs ++ [d] := by
  have hstart : trimStart (c :: cs ++ [d]) = c :: cs ++ [d] := by
    rw [trimStart, List.cons_append, List.dropWhile_cons_of_neg (by simp [hc])]
  rw [trimChars, hstart, trimEnd_concat hd]

/-- A text that begins with a character that is not blank begins with it after
trimming. -/
theorem head?_trimChars_cons {c : Char} (hc : isBlank c = false) (cs : List Char) :
    (trimChars (c :: cs)).head? = some c := by
  have hstart : trimStart (c :: cs) = c :: cs := List.dropWhile_cons_of_neg (by simp [hc])
  have hbegins : trimEnd (c :: cs) <+: c :: cs := by
    have hends := List.dropWhile_suffix isBlank (l := (c :: cs).reverse)
    rwa [← List.reverse_prefix, List.reverse_reverse] at hends
  obtain ⟨d, ds, hcons⟩ := List.exists_cons_of_ne_nil (trimEnd_cons_ne_nil hc cs)
  rw [hcons] at hbegins
  rw [trimChars, hstart, hcons, (List.cons_prefix_cons.mp hbegins).1]
  rfl

/-- What is left after trimming was there before. -/
theorem mem_of_mem_trimChars {c : Char} (h : c ∈ trimChars cs) : c ∈ cs := by
  unfold trimChars trimEnd trimStart at h
  have hstart := (List.dropWhile_sublist isBlank).mem (List.mem_reverse.mp h)
  exact (List.dropWhile_sublist isBlank).mem (List.mem_reverse.mp hstart)

end SqlMapper.Text
