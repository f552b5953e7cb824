/-!
# Segments: cutting a text at a separator

Texts are cut as lists of characters, so that every function here recurses
on the text itself.

## Main definitions

* `splitAt` — all the pieces between the occurrences of a separator.
* `joinWith`, `ofLines` — pieces and lines as one text.
* `cutFirst`, `cutLast` — the text before and after the first or the last
  occurrence of a separator.
* `dropPrefix?`, `dropSuffix?` — what is left without a given start or end.

## Main results

* `splitAt_append` — a separator between two texts separates their pieces.
-/

namespace SqlMapper.Text

/-! ## Splitting -/

/-- The pieces of the text between the occurrences of `sep`; a text without
`sep` is one piece. -/
def splitAt (sep : Char) : List Char → List (List Char)
  | [] => [[]]
  | c :: cs =>
      if c = sep then [] :: splitAt sep cs
      else
        match splitAt sep cs with
        | [] => [[c]]
        | piece :: pieces => (c :: piece) :: pieces

/-- A text has at least one piece. -/
theorem splitAt_ne_nil (sep : Char) (cs : List Char) : splitAt sep cs ≠ [] := by
  cases cs with
  | nil => simp [splitAt]
  | cons c cs =>
      rw [splitAt]
      split
      · simp
      · split <;> simp

/-- A separator between two texts separates their pieces. -/
theorem splitAt_append (sep : Char) (cs ds : List Char) :
    splitAt sep (cs ++ sep :: ds) = splitAt sep cs ++ splitAt sep ds := by
  induction cs with
  | nil => simp [splitAt]
  | cons c cs ih =>
      by_cases h : c = sep
      · simp [splitAt, h, ih]
      · cases hc : splitAt sep cs with
        | nil => exact absurd hc (splitAt_ne_nil sep cs)
        | cons piece pieces => simp [splitAt, h, ih, hc]

/-- The pieces of a string between the occurrences of `sep`. -/
def split (sep : Char) (s : String) : List String :=
  (splitAt sep s.toList).map String.ofList

/-- The texts with `sep` between them. -/
def joinWith (sep : Char) : List (List Char) → List Char
  | [] => []
  | [piece] => piece
  | piece :: pieces => piece ++ sep :: joinWith sep pieces

/-- The text of lines, each with a line feed at its end. -/
def ofLines (lines : List String) : String :=
  String.join (lines.map fun line => line ++ "\n")

/-! ## Cutting once -/

/-- The text before and after the first `sep`. -/
def cutFirst (sep : Char) : List Char → Option (List Char × List Char)
  | [] => none
  | c :: cs =>
      if c = sep then some ([], cs)
      else (cutFirst sep cs).map fun (before, after) => (c :: before, after)

/-- The text before and after the last `sep`. -/
def cutLast (sep : Char) : List Char → Option (List Char × List Char)
  | [] => none
  | c :: cs =>
      match cutLast sep cs with
      | some (before, after) => some (c :: before, after)
      | none => if c = sep then some ([], cs) else none

/-- What follows `start` in the text, if the text begins with it. -/
def dropPrefix? : List Char → List Char → Option (List Char)
  | [], cs => some cs
  | _ :: _, [] => none
  | d :: ds, c :: cs => if d = c then dropPrefix? ds cs else none

/-- What precedes `tail` in the text, if the text ends with it. -/
def dropSuffix? (tail cs : List Char) : Option (List Char) :=
  (dropPrefix? tail.reverse cs.reverse).map List.reverse

/-- The text begins with `start`. -/
def startsWith (start cs : List Char) : Bool := (dropPrefix? start cs).isSome

/-- Dropping a prefix succeeds exactly on the texts that begin with it. -/
theorem dropPrefix?_eq_some_iff {start cs rest : List Char} :
    dropPrefix? start cs = some rest ↔ cs = start ++ rest := by
  induction start generalizing cs with
  | nil => simp [dropPrefix?]
  | cons d ds ih =>
      cases cs with
      | nil => simp [dropPrefix?]
      | cons c cs =>
          by_cases h : d = c
          · simp [dropPrefix?, h, ih]
          · simp [dropPrefix?, h, Ne.symm h]

/-- Number of bytes of the text in UTF-8. -/
def utf8Length (cs : List Char) : Nat := cs.foldl (fun length c => length + c.utf8Size) 0

end SqlMapper.Text
