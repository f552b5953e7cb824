import SqlMapper.Text.CaseTable

/-!
# Letter case: the full Unicode case mappings

Upper and lower case as the standard defines them for whole texts. One
character may become several, and the only rule that looks around a
character is the one for a capital sigma at the end of a word.

## Main definitions

* `upperChar`, `upper` — upper case, character by character.
* `lowerChar`, `lower` — lower case, with the final-sigma rule in `lower`.
* `asciiUpper`, `asciiLower` — the mappings restricted to ASCII letters.
* `isUppercase` — the property `Uppercase` of one character.
-/

namespace SqlMapper.Text

/-! ## Looking a character up -/

/-- The code point lies in one of the ranges. -/
def inRanges (ranges : List (Nat × Nat)) (n : Nat) : Bool :=
  ranges.any fun (lo, hi) => lo ≤ n && n ≤ hi

/-- The image of a code point under a list of case runs. -/
def runImage (n : Nat) : List (Nat × Nat × Nat × Nat) → Option Nat
  | [] => none
  | (first, last, stride, image) :: runs =>
      if first ≤ n && n ≤ last && (n - first) % stride == 0 then some (image + (n - first))
      else runImage n runs

/-- The images of a character under runs and expansions; the character
itself where neither mentions it. -/
def caseImage (runs : List (Nat × Nat × Nat × Nat)) (expansions : List (Nat × List Nat))
    (c : Char) : List Char :=
  match runImage c.toNat runs with
  | some n => [Char.ofNat n]
  | none =>
      match expansions.lookup c.toNat with
      | some ns => ns.map Char.ofNat
      | none => [c]

/-! ## ASCII -/

/-- The upper case of the ASCII letters in a text. -/
def asciiUpper (s : String) : String := String.ofList (s.toList.map Char.toUpper)

/-- The lower case of the ASCII letters in a text. -/
def asciiLower (s : String) : String := String.ofList (s.toList.map Char.toLower)

/-- The two texts agree up to the case of ASCII letters. -/
def sameIgnoringAsciiCase (s t : String) : Bool :=
  s.toList.map Char.toLower == t.toList.map Char.toLower

/-! ## Upper case -/

/-- The upper case of one character. -/
def upperChar (c : Char) : List Char :=
  if c.toNat < 0x80 then [c.toUpper]
  else caseImage CaseTable.upperRuns CaseTable.upperExpansions c

/-- The upper case of a text. -/
def upper (s : String) : String := String.ofList (s.toList.flatMap upperChar)

/-- The property `Uppercase`. -/
def isUppercase (c : Char) : Bool := inRanges CaseTable.uppercase c.toNat

/-! ## Lower case -/

/-- The lower case of one character on its own. -/
def lowerChar (c : Char) : List Char :=
  if c.toNat < 0x80 then [c.toLower]
  else caseImage CaseTable.lowerRuns CaseTable.lowerExpansions c

/-- After its case-ignorable characters the text goes on with a cased one. -/
def continuesCased (cs : List Char) : Bool :=
  match cs.dropWhile fun c => inRanges CaseTable.caseIgnorable c.toNat with
  | [] => false
  | c :: _ => inRanges CaseTable.cased c.toNat

/-- Lower case of the characters that follow `before`, which holds the
characters read so far in reverse. A capital sigma that ends a word becomes
the final sigma. -/
def lowerFrom (before : List Char) : List Char → List Char
  | [] => []
  | c :: cs =>
      (if c == 'Σ' then
        if continuesCased before && !continuesCased cs then ['ς'] else ['σ']
      else lowerChar c) ++ lowerFrom (c :: before) cs

/-- The lower case of a text. -/
def lower (s : String) : String := String.ofList (lowerFrom [] s.toList)

end SqlMapper.Text
