import SqlMapper.Text.Blank
import SqlMapper.Text.Segments

/-!
# Squeezing is collapsing and trimming

`Text.squeeze` joins the words of a text by single spaces. Read character by
character the same text comes out if every run of blanks is collapsed to one
space and the ends are trimmed.

## Main results

* `squeeze_eq_trim_collapse` — the two readings agree.
-/

namespace SqlMapper.Text

/-- Every run of blanks becomes one space; with `gap` the text continues a
run for which the space is there already. -/
def collapseFrom (gap : Bool) : List Char → List Char
  | [] => []
  | c :: cs =>
      if isBlank c then
        if gap then collapseFrom true cs else ' ' :: collapseFrom true cs
      else c :: collapseFrom false cs

/-- The text with one space for every run of blanks. -/
def collapse (s : String) : String := String.ofList (collapseFrom false s.toList)

/-! ## Trimming the end -/

theorem trimEnd_concat {c : Char} (hc : isBlank c = false) (cs : List Char) :
    trimEnd (cs ++ [c]) = cs ++ [c] := by
  simp [trimEnd, hc]

/-- Dropping blanks stops at a character that is not blank. -/
private theorem dropWhile_isBlank_ne_nil {c : Char} (hc : isBlank c = false) {cs : List Char}
    (h : c ∈ cs) : cs.dropWhile isBlank ≠ [] := by
  induction cs with
  | nil => simp at h
  | cons d ds ih =>
      by_cases hd : isBlank d = true
      · have hcd : c ≠ d := by
          rintro rfl
          simp [hc] at hd
        simpa [hd] using ih ((List.mem_cons.mp h).resolve_left hcd)
      · simp [hd]

/-- Trimming the end stops inside a text that begins with a character that
is not blank. -/
theorem trimEnd_append_cons {c : Char} (hc : isBlank c = false) (cs ds : List Char) :
    trimEnd (cs ++ c :: ds) = cs ++ trimEnd (c :: ds) := by
  have hstop : ((c :: ds).reverse.dropWhile isBlank).isEmpty = false := by
    simpa using dropWhile_isBlank_ne_nil hc (show c ∈ (c :: ds).reverse by simp)
  rw [trimEnd, trimEnd, List.reverse_append, List.dropWhile_append, hstop]
  simp

theorem trimEnd_cons_ne_nil {c : Char} (hc : isBlank c = false) (cs : List Char) :
    trimEnd (c :: cs) ≠ [] := by
  have hstop := dropWhile_isBlank_ne_nil hc (show c ∈ (c :: cs).reverse by simp)
  simpa [trimEnd] using hstop

/-! ## Collapsed text -/

/-- Behind a space, collapsed text goes on with a character that is not
blank. -/
theorem not_blank_of_collapseFrom {cs ds : List Char} {d : Char}
    (h : collapseFrom true cs = d :: ds) : isBlank d = false := by
  induction cs with
  | nil => simp [collapseFrom] at h
  | cons c cs ih =>
      by_cases hc : isBlank c = true
      · rw [collapseFrom, if_pos hc, if_pos rfl] at h
        exact ih h
      · rw [collapseFrom, if_neg hc] at h
        obtain ⟨rfl, -⟩ := List.cons.inj h
        simpa using hc

/-- Trimming the start drops the space of a leading run. -/
theorem trimStart_collapseFrom (cs : List Char) :
    trimStart (collapseFrom false cs) = collapseFrom true cs := by
  cases cs with
  | nil => rfl
  | cons c cs =>
      by_cases hc : isBlank c = true
      · have hspace : isBlank ' ' = true := rfl
        have hrest : (collapseFrom true cs).dropWhile isBlank = collapseFrom true cs := by
          cases h : collapseFrom true cs with
          | nil => rfl
          | cons d ds => simp [not_blank_of_collapseFrom h]
        simp [collapseFrom, hc, trimStart, hspace, hrest]
      · simp [collapseFrom, hc, trimStart]

/-! ## Words -/

private theorem wordsFrom_eq_nil {cs : List Char} (h : collapseFrom true cs = []) :
    wordsFrom [] cs = [] := by
  induction cs with
  | nil => rfl
  | cons c cs ih =>
      by_cases hc : isBlank c = true
      · rw [collapseFrom, if_pos hc, if_pos rfl] at h
        simp [wordsFrom, hc, ih h]
      · simp [collapseFrom, hc] at h

/-- A word and the words behind the gap after it: the space stays exactly if
there is another word. -/
private theorem joinWith_word_gap {c : Char} {word cs : List Char} (hc : isBlank c = false)
    (hgap : joinWith ' ' (wordsFrom [] cs) = trimEnd (collapseFrom true cs)) :
    joinWith ' ' ((word.reverse ++ [c]) :: wordsFrom [] cs) =
      trimEnd (word.reverse ++ c :: ' ' :: collapseFrom true cs) := by
  cases hrest : collapseFrom true cs with
  | nil =>
      have hspace : isBlank ' ' = true := rfl
      rw [wordsFrom_eq_nil hrest, joinWith]
      simp [trimEnd, hc, hspace]
  | cons e es =>
      have he := not_blank_of_collapseFrom hrest
      have hregroup : word.reverse ++ c :: ' ' :: e :: es =
          (word.reverse ++ [c, ' ']) ++ e :: es := by simp
      rw [hrest] at hgap
      rw [hregroup, trimEnd_append_cons he, ← hgap]
      cases hw : wordsFrom [] cs with
      | nil =>
          rw [hw] at hgap
          exact absurd hgap.symm (trimEnd_cons_ne_nil he es)
      | cons piece pieces => simp [joinWith]

/-- The words behind a word that is being read, and the words behind a gap:
both joins are the collapsed text up to its last word. -/
private theorem joinWith_wordsFrom (cs : List Char) :
    joinWith ' ' (wordsFrom [] cs) = trimEnd (collapseFrom true cs) ∧
      ∀ c word, isBlank c = false →
        joinWith ' ' (wordsFrom (c :: word) cs) =
          trimEnd (word.reverse ++ c :: collapseFrom false cs) := by
  induction cs with
  | nil =>
      refine ⟨rfl, ?_⟩
      intro c word hc
      simpa [wordsFrom, joinWith, collapseFrom] using (trimEnd_concat hc word.reverse).symm
  | cons d cs ih =>
      obtain ⟨ihgap, ihword⟩ := ih
      by_cases hd : isBlank d = true
      · constructor
        · simpa [wordsFrom, collapseFrom, hd] using ihgap
        · intro c word hc
          have hcollapse : collapseFrom false (d :: cs) = ' ' :: collapseFrom true cs := by
            simp [collapseFrom, hd]
          have hwords : wordsFrom (c :: word) (d :: cs) =
              (word.reverse ++ [c]) :: wordsFrom [] cs := by
            simp [wordsFrom, hd]
          rw [hcollapse, hwords]
          exact joinWith_word_gap hc ihgap
      · have hd' : isBlank d = false := by simpa using hd
        constructor
        · simpa [wordsFrom, collapseFrom, hd] using ihword d [] hd'
        · intro c word hc
          simpa [wordsFrom, collapseFrom, hd] using ihword d (c :: word) hd'

private theorem toList_intercalate_space (pieces : List (List Char)) :
    (" ".intercalate (pieces.map String.ofList)).toList = joinWith ' ' pieces := by
  induction pieces with
  | nil => rfl
  | cons piece pieces ih =>
      cases pieces with
      | nil => simp [joinWith]
      | cons next rest =>
          rw [List.map_cons, String.intercalate_cons_of_ne_nil (by simp), String.toList_append,
            String.toList_append, ih]
          simp [joinWith]

/-- Joining the words of a text by spaces is collapsing its runs of blanks
and trimming its ends. -/
theorem squeeze_eq_trim_collapse (s : String) : squeeze s = trim (collapse s) := by
  apply String.toList_inj.mp
  rw [squeeze, words, toList_intercalate_space, (joinWith_wordsFrom _).1]
  simp [trim, collapse, trimChars, trimStart_collapseFrom]

end SqlMapper.Text
