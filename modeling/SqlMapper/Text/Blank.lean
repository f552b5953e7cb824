/-!
# Blank text: what trimming removes and what separates words

A character is *blank* when it has the Unicode property `White_Space`. The
narrower class of *padding* holds the four ASCII characters that may stand
around the parts of a parameter reference.

## Main definitions

* `isBlank`, `isPadding` — the two classes.
* `trim` — a text without the blanks at its two ends.
* `words` — the maximal runs of non-blank characters.
-/

namespace SqlMapper.Text

/-! ## The classes -/

/-- The Unicode property `White_Space`. -/
def isBlank (c : Char) : Bool :=
  (0x09 ≤ c.toNat && c.toNat ≤ 0x0D) || c.toNat == 0x20 || c.toNat == 0x85 || c.toNat == 0xA0 ||
    c.toNat == 0x1680 || (0x2000 ≤ c.toNat && c.toNat ≤ 0x200A) || c.toNat == 0x2028 ||
    c.toNat == 0x2029 || c.toNat == 0x202F || c.toNat == 0x205F || c.toNat == 0x3000

/-- Space, tab, carriage return or line feed. -/
def isPadding (c : Char) : Bool :=
  c == ' ' || c == '\t' || c == '\r' || c == '\n'

/-- Padding is blank. -/
theorem isBlank_of_isPadding {c : Char} (h : isPadding c = true) : isBlank c = true := by
  simp only [isPadding, Bool.or_eq_true, beq_iff_eq] at h
  rcases h with ((rfl | rfl) | rfl) | rfl <;> rfl

/-! ## Trimming -/

/-- Drops the blanks at the start. -/
def trimStart (cs : List Char) : List Char := cs.dropWhile isBlank

/-- Drops the blanks at the end. -/
def trimEnd (cs : List Char) : List Char := (cs.reverse.dropWhile isBlank).reverse

/-- Drops the blanks at both ends. -/
def trimChars (cs : List Char) : List Char := trimEnd (trimStart cs)

/-- The text without the blanks at its two ends. -/
def trim (s : String) : String := String.ofList (trimChars s.toList)

/-- Every character is blank; the empty text is. -/
def isBlankText (s : String) : Bool := s.toList.all isBlank

/-! ## Words -/

/-- The words of `cs`, where `word` holds, in reverse, the characters of the
word that is being read. -/
def wordsFrom (word : List Char) : List Char → List (List Char)
  | [] => if word.isEmpty then [] else [word.reverse]
  | c :: cs =>
      if isBlank c then
        if word.isEmpty then wordsFrom [] cs else word.reverse :: wordsFrom [] cs
      else wordsFrom (c :: word) cs

/-- The maximal runs of non-blank characters, in order. -/
def words (s : String) : List String := (wordsFrom [] s.toList).map String.ofList

/-- Every run of blanks becomes one space and the ends are trimmed. -/
def squeeze (s : String) : String := " ".intercalate (words s)

end SqlMapper.Text
