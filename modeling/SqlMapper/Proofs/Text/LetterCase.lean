import SqlMapper.Text.Blank
import SqlMapper.Text.LetterCase

/-!
# The case of letters

Changing the case of ASCII letters in a text changes neither its upper case nor
its lower case nor where its blanks are. The lower case of a text looks around a
capital sigma, but only at whether the characters there are letters, and a
letter of ASCII is one in either case.

The upper case of a text, of whatever letters, has a dot, a bracket or an
underscore where the text has one and nowhere else.

## Main definitions

* `SameLetters` — the two texts differ at most in the case of ASCII letters.
* `separators` — the dot, the bracket and the underscore.

## Main results

* `apply_toLower` — what does not tell the capitals from the small letters.
* `SameLetters.lower_eq`, `SameLetters.upper_eq` — such texts have the same
  lower and the same upper case.
* `SameLetters.trimChars` — trimming them keeps them so.
* `mem_upper_iff` — the separators in the upper case of a text.
-/

namespace SqlMapper.Text

variable {cs ds : List Char}

/-- The two texts differ at most in the case of ASCII letters. -/
def SameLetters (cs ds : List Char) : Prop := cs.map Char.toLower = ds.map Char.toLower

instance (cs ds : List Char) : Decidable (SameLetters cs ds) :=
  inferInstanceAs (Decidable (_ = _))

/-! ## Single characters -/

/-- A function that does not tell the 26 ASCII capitals from the small letters
is the same on every character and its small letter. -/
theorem apply_toLower {α : Type} (f : Char → α)
    (h : ∀ n ∈ List.range' 'A'.toNat 26, f (Char.ofNat n).toLower = f (Char.ofNat n))
    (c : Char) : f c.toLower = f c := by
  by_cases hcapital : c.val ≥ 'A'.val ∧ c.val ≤ 'Z'.val
  · have hmem : c.toNat ∈ List.range' 'A'.toNat 26 := by
      have hlow : 'A'.toNat ≤ c.toNat := hcapital.1
      have hhigh : c.toNat ≤ 'Z'.toNat := hcapital.2
      rw [List.mem_range'_1]
      exact ⟨hlow, Nat.lt_succ_of_le hhigh⟩
    have hc := h c.toNat hmem
    rwa [Char.ofNat_toNat] at hc
  · exact congrArg f (dif_neg hcapital)

theorem isBlank_toLower (c : Char) : isBlank c.toLower = isBlank c :=
  apply_toLower isBlank (by decide +kernel) c

theorem lowerChar_toLower (c : Char) : lowerChar c.toLower = lowerChar c :=
  apply_toLower lowerChar (by decide +kernel) c

theorem upperChar_toLower (c : Char) : upperChar c.toLower = upperChar c :=
  apply_toLower upperChar (by decide +kernel) c

/-- A character that is no ASCII letter is the small letter of itself only. -/
theorem toLower_beq {d : Char}
    (h : ∀ n ∈ List.range' 'A'.toNat 26,
      ((Char.ofNat n).toLower == d) = (Char.ofNat n == d)) (c : Char) :
    (c.toLower == d) = (c == d) :=
  apply_toLower (· == d) h c

/-! ## Texts -/

/-- No ASCII letter is ignored where a text is looked at for a cased character:
near them only two signs between the capitals and the small letters are. -/
private theorem not_ignorable_of_letter {n : Nat} (h : 65 ≤ n ∧ n ≤ 90 ∨ 97 ≤ n ∧ n ≤ 122) :
    inRanges CaseTable.caseIgnorable n = false := by
  have htable : ∀ range ∈ CaseTable.caseIgnorable,
      range.2 < 65 ∨ 90 < range.1 ∧ range.2 < 97 ∨ 122 < range.1 := by
    decide +kernel
  unfold inRanges
  rw [List.any_eq_false]
  intro range hmem
  have hrange := htable range hmem
  simp only [Bool.and_eq_true, decide_eq_true_eq]
  omega

theorem continuesCased_map_toLower (cs : List Char) :
    continuesCased (cs.map Char.toLower) = continuesCased cs := by
  have hletters : ∀ n ∈ List.range' 'A'.toNat 26,
      (97 ≤ (Char.ofNat n).toLower.toNat ∧ (Char.ofNat n).toLower.toNat ≤ 122) ∧
        65 ≤ (Char.ofNat n).toNat ∧ (Char.ofNat n).toNat ≤ 90 := by
    decide +kernel
  have hignorable : (fun c : Char => inRanges CaseTable.caseIgnorable c.toNat) ∘ Char.toLower =
      fun c => inRanges CaseTable.caseIgnorable c.toNat := by
    refine funext (apply_toLower (fun c => inRanges CaseTable.caseIgnorable c.toNat) ?_)
    intro n hn
    rw [not_ignorable_of_letter (.inr (hletters n hn).1),
      not_ignorable_of_letter (.inl (hletters n hn).2)]
  have hcased (c : Char) : inRanges CaseTable.cased c.toLower.toNat =
      inRanges CaseTable.cased c.toNat :=
    apply_toLower (fun c => inRanges CaseTable.cased c.toNat) (by decide +kernel) c
  unfold continuesCased
  rw [List.dropWhile_map, hignorable]
  generalize List.dropWhile _ cs = rest
  cases rest with
  | nil => rfl
  | cons c rest => exact hcased c

theorem lowerFrom_map_toLower (before cs : List Char) :
    lowerFrom (before.map Char.toLower) (cs.map Char.toLower) = lowerFrom before cs := by
  induction cs generalizing before with
  | nil => rfl
  | cons c cs ih =>
      have hsigma : (c.toLower == 'Σ') = (c == 'Σ') := toLower_beq (by decide +kernel) c
      have hrest := ih (c :: before)
      rw [List.map_cons] at hrest
      rw [List.map_cons, lowerFrom, lowerFrom, hsigma, continuesCased_map_toLower,
        continuesCased_map_toLower, lowerChar_toLower, hrest]

section

variable {s t u : String}

theorem sameIgnoringAsciiCase_iff :
    sameIgnoringAsciiCase s t = true ↔ SameLetters s.toList t.toList :=
  beq_iff_eq

theorem sameIgnoringAsciiCase_refl (s : String) : sameIgnoringAsciiCase s s = true :=
  sameIgnoringAsciiCase_iff.mpr rfl

theorem sameIgnoringAsciiCase_symm (h : sameIgnoringAsciiCase s t = true) :
    sameIgnoringAsciiCase t s = true :=
  sameIgnoringAsciiCase_iff.mpr (sameIgnoringAsciiCase_iff.mp h).symm

theorem sameIgnoringAsciiCase_trans (hst : sameIgnoringAsciiCase s t = true)
    (htu : sameIgnoringAsciiCase t u = true) : sameIgnoringAsciiCase s u = true := by
  rw [sameIgnoringAsciiCase_iff] at hst htu ⊢
  exact hst.trans htu

end

namespace SameLetters

/-- Texts that differ in the case of ASCII letters have the same upper case. -/
theorem upper_eq {s t : String} (h : SameLetters s.toList t.toList) : upper s = upper t := by
  have hmap (cs : List Char) : (cs.map Char.toLower).flatMap upperChar = cs.flatMap upperChar := by
    rw [List.flatMap_map]
    exact congrArg (List.flatMap · cs) (funext upperChar_toLower)
  unfold upper
  rw [← hmap s.toList, ← hmap t.toList, h]

/-- Texts that differ in the case of ASCII letters have the same lower case. -/
theorem lower_eq (h : SameLetters cs ds) : lower (String.ofList cs) = lower (String.ofList ds) := by
  unfold lower
  rw [String.toList_ofList, String.toList_ofList, ← lowerFrom_map_toLower [] cs,
    ← lowerFrom_map_toLower [] ds, h]

theorem reverse (h : SameLetters cs ds) : SameLetters cs.reverse ds.reverse := by
  unfold SameLetters
  rw [List.map_reverse, List.map_reverse, h]

theorem dropBlanks (h : SameLetters cs ds) :
    SameLetters (cs.dropWhile isBlank) (ds.dropWhile isBlank) := by
  have hblank : isBlank ∘ Char.toLower = isBlank := funext isBlank_toLower
  have hdrop (l : List Char) :
      (l.map Char.toLower).dropWhile isBlank = (l.dropWhile isBlank).map Char.toLower := by
    rw [List.dropWhile_map, hblank]
  unfold SameLetters
  rw [← hdrop, ← hdrop, h]

/-- Trimming does not look at letters. -/
theorem trimChars (h : SameLetters cs ds) : SameLetters (trimChars cs) (trimChars ds) :=
  h.dropBlanks.reverse.dropBlanks.reverse

/-- A character that is no ASCII letter is in both texts or in none. -/
theorem mem_iff {d : Char} (h : SameLetters cs ds)
    (hd : ∀ n ∈ List.range' 'A'.toNat 26,
      ((Char.ofNat n).toLower == d) = (Char.ofNat n == d)) : d ∈ cs ↔ d ∈ ds := by
  have hmem (l : List Char) : d ∈ l ↔ d ∈ l.map Char.toLower := by
    rw [List.mem_map]
    constructor
    · intro hl
      have hself : d.toLower = d := by simpa using toLower_beq hd d
      exact ⟨d, hl, hself⟩
    · rintro ⟨c, hc, hlower⟩
      have hcd : c = d := by simpa [hlower] using (toLower_beq hd c).symm
      exact hcd ▸ hc
  rw [hmem cs, hmem ds, h]

end SameLetters

/-! ## Separators -/

/-- The signs that stand between the parts of a name. -/
def separators : List Char := ['.', '[', '_']

/-- An image under a run lies in the range of the run. -/
private theorem exists_of_runImage {runs : List (Nat × Nat × Nat × Nat)} {n m : Nat}
    (h : runImage n runs = some m) :
    ∃ run ∈ runs, run.2.2.2 ≤ m ∧ m ≤ run.2.2.2 + (run.2.1 - run.1) := by
  induction runs with
  | nil => cases h
  | cons run runs ih =>
      obtain ⟨first, last, stride, image⟩ := run
      rw [runImage] at h
      split at h
      · next hin =>
          obtain rfl := Option.some.inj h
          simp only [Bool.and_eq_true, decide_eq_true_eq] at hin
          refine ⟨_, List.mem_cons_self, ?_⟩
          dsimp only
          omega
      · obtain ⟨other, hmem, hother⟩ := ih h
        exact ⟨other, List.mem_cons_of_mem _ hmem, hother⟩

/-- A code point is that of its character, unless there is no such character. -/
private theorem toNat_ofNat (n : Nat) : (Char.ofNat n).toNat = n ∨ (Char.ofNat n).toNat = 0 := by
  by_cases hvalid : n.isValidChar
  · rw [Char.ofNat, dif_pos hvalid]
    exact .inl rfl
  · rw [Char.ofNat, dif_neg hvalid]
    exact .inr rfl

/-- A sign below `0x80` that the table has nowhere in an upper case, and that only
stands for itself below `0x80`. -/
private structure Uncased (d : Char) : Prop where
  small : 0 < d.toNat ∧ d.toNat < 0x80
  ascii : ∀ n < 0x80, d = (Char.ofNat n).toUpper ↔ d = Char.ofNat n
  runs : ∀ run ∈ CaseTable.upperRuns,
    d.toNat < run.2.2.2 ∨ run.2.2.2 + (run.2.1 - run.1) < d.toNat
  expansions : ∀ expansion ∈ CaseTable.upperExpansions, d ∉ expansion.2.map Char.ofNat

private theorem uncased_of_mem_separators {d : Char} (hsep : d ∈ separators) : Uncased d := by
  obtain rfl | rfl | rfl : d = '.' ∨ d = '[' ∨ d = '_' := by simpa [separators] using hsep
  all_goals exact ⟨by decide, by decide +kernel, by decide +kernel, by decide +kernel⟩

/-- No other character has a separator in its upper case. -/
theorem mem_upperChar_iff {c d : Char} (hsep : d ∈ separators) : d ∈ upperChar c ↔ d = c := by
  have huncased := uncased_of_mem_separators hsep
  unfold upperChar
  split
  · next hlow =>
      rw [List.mem_singleton, ← Char.ofNat_toNat c]
      exact huncased.ascii c.toNat hlow
  · next hhigh =>
      have hne : d ≠ c := by
        rintro rfl
        exact hhigh huncased.small.2
      refine iff_of_false ?_ hne
      unfold caseImage
      split
      · next n hrun =>
          obtain ⟨run, hmem, hrange⟩ := exists_of_runImage hrun
          have houtside := huncased.runs run hmem
          rw [List.mem_singleton]
          rintro rfl
          have hpositive := huncased.small.1
          rcases toNat_ofNat n with h | h <;> omega
      · split
        · next ns hlookup =>
            obtain ⟨before, after, hentries, -⟩ := List.lookup_eq_some_iff.mp hlookup
            exact huncased.expansions _ (hentries ▸ List.mem_append_right _ List.mem_cons_self)
        · rw [List.mem_singleton]
          exact hne

/-- Where a text has a separator, so has its upper case. -/
theorem mem_upper_iff {s : String} {d : Char} (hsep : d ∈ separators) :
    d ∈ (upper s).toList ↔ d ∈ s.toList := by
  simp [upper, List.mem_flatMap, mem_upperChar_iff hsep]

end SqlMapper.Text
