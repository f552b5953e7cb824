import SqlMapper.Text.Segments

/-!
# Byte positions

A position in a text counts the bytes of its UTF-8 form before it. Not every
position stands between two characters, and not every pair of positions
bounds a stretch of the text, so what stands at positions may be nothing.

## Main definitions

* `utf8Bytes` — the bytes of a text.
* `tailAt?` — the text from a position on.
* `slice?` — the text between two positions.

## Main results

* `tailAt?_eq_some_iff`, `slice?_eq_some_iff` — the positions that stand
  between characters, and the pairs that bound a stretch.
* `append_inj_of_utf8Length` — a position cuts a text in one way.
* `utf8Bytes_before_iff` — the byte before a character's end is a backslash
  exactly if the character is.
-/

namespace SqlMapper.Text

variable {cs ds front middle rest : List Char} {position first last : Nat}

/-! ## Lengths -/

private theorem foldl_utf8Size (cs : List Char) (n : Nat) :
    cs.foldl (fun length c => length + c.utf8Size) n = n + utf8Length cs := by
  induction cs generalizing n with
  | nil => rfl
  | cons c cs ih =>
      have hrest : utf8Length (c :: cs) = 0 + c.utf8Size + utf8Length cs := ih (0 + c.utf8Size)
      rw [List.foldl_cons, ih, hrest]
      omega

@[simp] theorem utf8Length_nil : utf8Length [] = 0 := rfl

@[simp] theorem utf8Length_cons (c : Char) (cs : List Char) :
    utf8Length (c :: cs) = c.utf8Size + utf8Length cs := by
  rw [utf8Length, List.foldl_cons, foldl_utf8Size, Nat.zero_add]

@[simp] theorem utf8Length_append (cs ds : List Char) :
    utf8Length (cs ++ ds) = utf8Length cs + utf8Length ds := by
  rw [utf8Length, List.foldl_append, foldl_utf8Size]
  rfl

theorem utf8Length_pos (h : cs ≠ []) : 0 < utf8Length cs := by
  obtain ⟨c, rest, rfl⟩ := List.exists_cons_of_ne_nil h
  have := c.utf8Size_pos
  rw [utf8Length_cons]
  omega

theorem utf8Length_eq_zero_iff : utf8Length cs = 0 ↔ cs = [] := by
  constructor
  · intro h
    cases cs with
    | nil => rfl
    | cons c cs =>
        have := c.utf8Size_pos
        rw [utf8Length_cons] at h
        omega
  · rintro rfl
    rfl

/-! ## Bytes -/

/-- The bytes of the text in UTF-8. -/
def utf8Bytes (cs : List Char) : List UInt8 := cs.flatMap String.utf8EncodeChar

theorem length_utf8Bytes (cs : List Char) : (utf8Bytes cs).length = utf8Length cs := by
  induction cs with
  | nil => rfl
  | cons c cs ih =>
      rw [utf8Bytes, List.flatMap_cons, List.length_append, String.length_utf8EncodeChar,
        utf8Length_cons]
      exact congrArg (c.utf8Size + ·) ih

/-- The backslash as a byte. -/
def backslashByte : UInt8 := 0x5C

/-- No other character ends in the byte of the backslash: the last byte of a
character of several bytes is 0x80 or more. -/
theorem getLast?_utf8EncodeChar_iff (c : Char) :
    (String.utf8EncodeChar c).getLast? = some backslashByte ↔ c = '\\' := by
  constructor
  · intro h
    have hcontinued (n : Nat) : UInt8.ofNat (n % 64 + 128) ≠ backslashByte := by
      intro heq
      have hnat := congrArg UInt8.toNat heq
      rw [UInt8.toNat_ofNat'] at hnat
      change (n % 64 + 128) % 256 = 92 at hnat
      omega
    dsimp only [String.utf8EncodeChar] at h
    split at h
    · next hsmall =>
        have hbyte : UInt8.ofNat c.val.toNat = backslashByte := Option.some.inj h
        have hnat := congrArg UInt8.toNat hbyte
        rw [UInt8.toNat_ofNat'] at hnat
        change c.val.toNat % 256 = 92 at hnat
        apply Char.ext
        apply UInt32.toNat_inj.mp
        change c.val.toNat = 92
        omega
    · -- several bytes: the last one holds the low six bits
      have hlast : UInt8.ofNat (c.val.toNat % 64 + 128) = backslashByte := by
        split at h
        · exact Option.some.inj h
        · split at h <;> exact Option.some.inj h
      exact absurd hlast (hcontinued c.val.toNat)
  · rintro rfl
    decide

/-- The byte before a position between two characters is a backslash exactly
if the character before it is. -/
theorem utf8Bytes_before_iff (hfront : front ≠ []) (rest : List Char) :
    (utf8Bytes (front ++ rest))[utf8Length front - 1]? = some backslashByte ↔
      front.getLast? = some '\\' := by
  obtain ⟨before, c, rfl⟩ := (List.eq_nil_or_concat front).resolve_left hfront
  rw [List.concat_eq_append]
  have hne : String.utf8EncodeChar c ≠ [] := String.utf8EncodeChar_ne_nil
  have hpos := c.utf8Size_pos
  have hsplit : utf8Bytes (before ++ [c] ++ rest) =
      utf8Bytes before ++ (String.utf8EncodeChar c ++ utf8Bytes rest) := by
    simp [utf8Bytes]
  have hposition : utf8Length (before ++ [c]) - 1 =
      (utf8Bytes before).length + (c.utf8Size - 1) := by
    rw [length_utf8Bytes, utf8Length_append, utf8Length_cons, utf8Length_nil]
    omega
  have hlast : (String.utf8EncodeChar c)[c.utf8Size - 1]? = (String.utf8EncodeChar c).getLast? := by
    rw [List.getLast?_eq_getElem?, String.length_utf8EncodeChar]
  rw [hsplit, hposition, List.getElem?_append_right (Nat.le_add_right _ _), Nat.add_sub_cancel_left,
    List.getElem?_append_left (by rw [String.length_utf8EncodeChar]; omega), hlast,
    getLast?_utf8EncodeChar_iff, List.getLast?_concat, Option.some.injEq]

/-! ## Stretches -/

/-- The text from a byte position on; none if the position lies behind the end
or inside a character. -/
def tailAt? : List Char → Nat → Option (List Char)
  | cs, 0 => some cs
  | [], _ + 1 => none
  | c :: cs, n + 1 => if c.utf8Size ≤ n + 1 then tailAt? cs (n + 1 - c.utf8Size) else none

theorem tailAt?_eq_some_iff :
    tailAt? cs position = some rest ↔ ∃ front, cs = front ++ rest ∧ position = utf8Length front := by
  induction cs generalizing position with
  | nil =>
      cases position with
      | zero =>
          simp only [tailAt?, Option.some.injEq, List.nil_eq, List.append_eq_nil_iff]
          constructor
          · rintro rfl
            exact ⟨[], ⟨rfl, rfl⟩, rfl⟩
          · rintro ⟨front, ⟨-, hrest⟩, -⟩
            exact hrest
      | succ n => simp [tailAt?]
  | cons c cs ih =>
      have hpos := c.utf8Size_pos
      cases position with
      | zero =>
          simp only [tailAt?, Option.some.injEq]
          constructor
          · rintro rfl
            exact ⟨[], rfl, rfl⟩
          · rintro ⟨front, hcs, hzero⟩
            obtain rfl := utf8Length_eq_zero_iff.mp hzero.symm
            exact hcs
      | succ n =>
          rw [tailAt?]
          constructor
          · intro h
            by_cases hfits : c.utf8Size ≤ n + 1
            · rw [if_pos hfits] at h
              obtain ⟨front, rfl, hlength⟩ := ih.mp h
              refine ⟨c :: front, rfl, ?_⟩
              rw [utf8Length_cons]
              omega
            · rw [if_neg hfits] at h
              cases h
          · rintro ⟨front, hcs, hlength⟩
            cases front with
            | nil => simp at hlength
            | cons d front =>
                obtain ⟨rfl, rfl⟩ := List.cons.inj hcs
                rw [utf8Length_cons] at hlength
                rw [if_pos (by omega)]
                exact ih.mpr ⟨front, rfl, by omega⟩

/-- From the end of a beginning of the text its rest goes on. -/
theorem tailAt?_append (front rest : List Char) :
    tailAt? (front ++ rest) (utf8Length front) = some rest :=
  tailAt?_eq_some_iff.mpr ⟨front, rfl, rfl⟩

/-- A position lies between two characters in one way only. -/
theorem append_inj_of_utf8Length (h : front ++ cs = rest ++ ds)
    (hposition : utf8Length front = utf8Length rest) : front = rest ∧ cs = ds := by
  have htail : tailAt? (front ++ cs) (utf8Length front) = some ds := by
    rw [h, hposition]
    exact tailAt?_append rest ds
  rw [tailAt?_append] at htail
  obtain rfl := Option.some.inj htail
  exact ⟨List.append_cancel_right h, rfl⟩

/-- The text between two byte positions; none if the second lies before the
first, or one of them behind the end or inside a character. -/
def slice? (cs : List Char) (first last : Nat) : Option (List Char) :=
  if first ≤ last then
    (tailAt? cs first).bind fun tail =>
      (tailAt? tail (last - first)).map fun rest => tail.take (tail.length - rest.length)
  else none

theorem slice?_eq_some_iff :
    slice? cs first last = some middle ↔
      ∃ front rest, cs = front ++ middle ++ rest ∧ first = utf8Length front ∧
        last = utf8Length (front ++ middle) := by
  constructor
  · intro h
    rw [slice?] at h
    split at h
    · next hle =>
        obtain ⟨tail, htail, h⟩ := Option.bind_eq_some_iff.mp h
        obtain ⟨rest, hrest, htake⟩ := Option.map_eq_some_iff.mp h
        obtain ⟨front, rfl, hfirst⟩ := tailAt?_eq_some_iff.mp htail
        obtain ⟨inner, rfl, hlast⟩ := tailAt?_eq_some_iff.mp hrest
        obtain rfl : inner = middle := by simpa using htake
        refine ⟨front, rest, by simp, hfirst, ?_⟩
        rw [utf8Length_append]
        omega
    · cases h
  · rintro ⟨front, rest, rfl, rfl, rfl⟩
    have hmiddle : utf8Length (front ++ middle) - utf8Length front = utf8Length middle := by
      rw [utf8Length_append, Nat.add_sub_cancel_left]
    rw [slice?, if_pos (by simp), List.append_assoc, tailAt?_append, Option.bind_some, hmiddle,
      tailAt?_append, Option.map_some]
    simp

end SqlMapper.Text
