import Mathlib.Data.List.TakeWhile
import SqlMapper.Template.Reference

/-!
# The parts of a reference: longest runs, marked pieces and groups

The reader of a reference is made of four small readers. Each is described
here by what it takes off a text and by what may follow, with no word about how
it goes along the characters: `run` and `skipPadding` take the longest run of a
kind, `readMarked?` takes a piece up to the next comma if there is one, and
`balanced` takes the shortest beginning in which parentheses balance.

The depth of the parentheses starts at one and stays there or above until they
balance (`StaysOpen`). So one invariant says when a group ends, when it never
ends, and that the depth never falls below zero (`balanced_append`).

## Main definitions

* `LongestRun`, `IsPiece`, `IsGroup` — the parts.
* `marked` — a text before which a piece may stand.
* `StaysOpen` — a text in which the depth stays positive.

## Main results

* `run_eq_iff`, `skipPadding_eq_iff`, `readMarked?_eq_iff` — what the readers
  take, both ways.
* `balanced_append` — the depth behind a text that stays open.
* `balanced_eq_some_iff`, `balanced_eq_none_iff` — groups that end and groups
  that do not.
-/

namespace SqlMapper

namespace Reference

/-! ## Longest runs -/

section Runs

variable {kind : Char → Bool} {stops part rest cs : List Char}

/-- A run of characters of one kind that what follows does not continue. -/
structure LongestRun (kind : Char → Bool) (part rest : List Char) : Prop where
  all : ∀ c ∈ part, kind c = true
  stops : ∀ c ∈ rest.head?, kind c = false

-- the characters of the run are tried, not all characters
instance (kind : Char → Bool) (part rest : List Char) : Decidable (LongestRun kind part rest) :=
  decidable_of_iff (part.all kind = true ∧ rest.head?.all (!kind ·) = true) (by
    rw [List.all_eq_true]
    constructor
    · rintro ⟨hall, hstops⟩
      refine ⟨hall, ?_⟩
      rintro c hc
      rw [Option.mem_def.mp hc] at hstops
      simpa using hstops
    · rintro ⟨hall, hstops⟩
      refine ⟨hall, ?_⟩
      cases rest with
      | nil => rfl
      | cons c rest => simpa using hstops c rfl)

/-- The characters that are none of `stops`. -/
def outside (stops : List Char) (c : Char) : Bool := !stops.contains c

theorem longestRun_takeWhile (kind : Char → Bool) (cs : List Char) :
    LongestRun kind (cs.takeWhile kind) (cs.dropWhile kind) := by
  refine ⟨fun c hc => List.mem_takeWhile_imp hc, ?_⟩
  intro c hc
  have hhead := List.head?_dropWhile_not kind cs
  rw [Option.mem_def.mp hc] at hhead
  exact hhead

theorem LongestRun.takeWhile_append (h : LongestRun kind part rest) :
    (part ++ rest).takeWhile kind = part := by
  rw [List.takeWhile_append_of_pos h.all]
  cases rest with
  | nil => simp
  | cons c rest => rw [List.takeWhile_cons_of_neg (by simp [h.stops c rfl]), List.append_nil]

theorem LongestRun.dropWhile_append (h : LongestRun kind part rest) :
    (part ++ rest).dropWhile kind = rest := by
  rw [List.dropWhile_append_of_pos h.all]
  cases rest with
  | nil => rfl
  | cons c rest => rw [List.dropWhile_cons_of_neg (by simp [h.stops c rfl])]

/-- A run ends before the first character of `stops`, or with the text. -/
theorem run_eq_iff :
    run stops cs = (part, rest) ↔ cs = part ++ rest ∧ LongestRun (outside stops) part rest := by
  constructor
  · intro h
    obtain ⟨rfl, rfl⟩ := Prod.mk.inj h
    exact ⟨List.takeWhile_append_dropWhile.symm, longestRun_takeWhile (outside stops) cs⟩
  · rintro ⟨rfl, h⟩
    exact Prod.ext h.takeWhile_append h.dropWhile_append

theorem takeWhile_append_skipPadding (cs : List Char) :
    cs.takeWhile Text.isPadding ++ skipPadding cs = cs := List.takeWhile_append_dropWhile

theorem skipPadding_subset (cs : List Char) : skipPadding cs ⊆ cs :=
  (List.dropWhile_sublist _).subset

/-- All padding at the start is dropped and nothing else. -/
theorem skipPadding_eq_iff :
    skipPadding cs = rest ↔
      ∃ padding, cs = padding ++ rest ∧ LongestRun Text.isPadding padding rest := by
  constructor
  · rintro rfl
    exact ⟨cs.takeWhile Text.isPadding, (takeWhile_append_skipPadding cs).symm,
      longestRun_takeWhile Text.isPadding cs⟩
  · rintro ⟨padding, rfl, h⟩
    exact h.dropWhile_append

end Runs

/-! ## Marked pieces -/

section Pieces

variable {mark : Char} {piece rest cs : List Char} {piece? : Option (List Char)}

/-- A piece is there and goes up to the next comma or to the end. -/
structure IsPiece (piece rest : List Char) : Prop where
  ne_nil : piece ≠ []
  longest : LongestRun (outside [',']) piece rest

instance (piece rest : List Char) : Decidable (IsPiece piece rest) :=
  decidable_of_iff (piece ≠ [] ∧ LongestRun (outside [',']) piece rest)
    ⟨fun ⟨hne, hlongest⟩ => ⟨hne, hlongest⟩, fun ⟨hne, hlongest⟩ => ⟨hne, hlongest⟩⟩

/-- A text, and before it a piece behind its mark if there is a piece. -/
def marked (mark : Char) (piece? : Option (List Char)) (rest : List Char) : List Char :=
  match piece? with
  | none => rest
  | some piece => mark :: (piece ++ rest)

/-- If the text begins with the mark, then nothing stands between the mark and
the next comma or the end. -/
def NothingMarked (mark : Char) (cs : List Char) : Prop :=
  ∀ after, cs = mark :: after → ∀ c ∈ after.head?, c = ','

theorem nothingMarked_of_head? (h : cs.head? ≠ some mark) : NothingMarked mark cs := by
  rintro after rfl
  exact absurd rfl h

theorem nothingMarked_cons {after : List Char} (h : ∀ c ∈ after.head?, c = ',') :
    NothingMarked mark (mark :: after) := by
  rintro after' ⟨⟩
  exact h

theorem readMarked?_of_isPiece (h : IsPiece piece rest) :
    readMarked? mark (mark :: (piece ++ rest)) = (some piece, rest) := by
  have hrun : run [','] (piece ++ rest) = (piece, rest) := run_eq_iff.mpr ⟨rfl, h.longest⟩
  simp only [readMarked?, if_true, hrun]
  split
  · next heq => exact absurd (Prod.mk.inj heq).1 h.ne_nil
  · next heq =>
      obtain ⟨rfl, rfl⟩ := Prod.mk.inj heq
      rfl

theorem readMarked?_of_nothingMarked (h : NothingMarked mark cs) :
    readMarked? mark cs = (none, cs) := by
  cases cs with
  | nil => rfl
  | cons c after =>
      by_cases hc : c = mark
      · subst hc
        have hrun : run [','] after = ([], after) := by
          refine run_eq_iff.mpr ⟨rfl, by simp, ?_⟩
          intro d hd
          simp [outside, h after rfl d hd]
        simp only [readMarked?, if_true, hrun]
      · simp only [readMarked?, if_neg hc]

/-- A piece is read exactly if there is one; else nothing is taken off. -/
theorem readMarked?_eq_iff :
    readMarked? mark cs = (piece?, rest) ↔
      cs = marked mark piece? rest ∧ (∀ piece ∈ piece?, IsPiece piece rest) ∧
        (piece? = none → NothingMarked mark rest) := by
  constructor
  · intro h
    by_cases hnothing : NothingMarked mark cs
    · rw [readMarked?_of_nothingMarked hnothing] at h
      obtain ⟨rfl, rfl⟩ := Prod.mk.inj h
      exact ⟨rfl, by simp, fun _ => hnothing⟩
    · -- then the mark is there, and the run behind it is not empty
      simp only [NothingMarked, not_forall] at hnothing
      obtain ⟨after, rfl, c, hc, hcomma⟩ := hnothing
      obtain ⟨tail, rfl⟩ : ∃ tail, after = c :: tail := List.head?_eq_some_iff.mp hc
      have hpiece : IsPiece ((c :: tail).takeWhile (outside [',']))
          ((c :: tail).dropWhile (outside [','])) := by
        refine ⟨?_, longestRun_takeWhile _ _⟩
        rw [List.takeWhile_cons_of_pos (by simp [outside, hcomma])]
        exact List.cons_ne_nil _ _
      have hread : readMarked? mark (mark :: (_ ++ _)) = _ := readMarked?_of_isPiece hpiece
      rw [List.takeWhile_append_dropWhile, h] at hread
      obtain ⟨rfl, rfl⟩ := Prod.mk.inj hread
      refine ⟨?_, ?_, by simp⟩
      · rw [marked, List.takeWhile_append_dropWhile]
      · rintro piece ⟨⟩
        exact hpiece
  · rintro ⟨rfl, hpiece, hnothing⟩
    cases piece? with
    | none => exact readMarked?_of_nothingMarked (hnothing rfl)
    | some piece => exact readMarked?_of_isPiece (hpiece piece rfl)

end Pieces

/-! ## Groups -/

section Groups

variable {depth : Nat} {c : Char} {cs front inner rest group : List Char}

/-- As many parentheses open as close. -/
def Balances (cs : List Char) : Prop := cs.count '(' = cs.count ')'

instance (cs : List Char) : Decidable (Balances cs) := inferInstanceAs (Decidable (_ = _))

/-- From an open parenthesis on, the shortest text in which parentheses
balance. -/
structure IsGroup (group : List Char) : Prop where
  opens : group.head? = some '('
  balances : Balances group
  shortest : ∀ front, front <+: group → front ≠ [] → Balances front → front = group

/-- Entered at the given depth, the text leaves the parentheses open all
along. -/
def StaysOpen (depth : Nat) (cs : List Char) : Prop :=
  ∀ front, front <+: cs → front.count ')' < depth + front.count '('

/-- The depth behind a character. -/
def depthBehind (depth : Nat) (c : Char) : Nat :=
  if c = ')' then depth - 1 else if c = '(' then depth + 1 else depth

theorem depthBehind_add_count (hdepth : 0 < depth) (c : Char) (cs : List Char) :
    depthBehind depth c + cs.count '(' + (c :: cs).count ')' =
      depth + (c :: cs).count '(' + cs.count ')' := by
  by_cases hclose : c = ')'
  · subst hclose
    simp [depthBehind]
    omega
  · by_cases hopen : c = '('
    · subst hopen
      simp [depthBehind]
      omega
    · simp [depthBehind, hclose, hopen]

/-- A text leaves the same depth, counted from before or behind its first
character. -/
theorem depthBehind_add_sub (hdepth : 0 < depth) (c : Char) (cs : List Char) :
    depthBehind depth c + cs.count '(' - cs.count ')' =
      depth + (c :: cs).count '(' - (c :: cs).count ')' := by
  have hcount := depthBehind_add_count hdepth c cs
  omega

theorem StaysOpen.depth_pos (h : StaysOpen depth cs) : 0 < depth := h [] List.nil_prefix

theorem staysOpen_nil_iff : StaysOpen depth [] ↔ 0 < depth := by
  constructor
  · exact StaysOpen.depth_pos
  · intro h front hfront
    rw [List.prefix_nil.mp hfront]
    simpa using h

theorem staysOpen_cons_iff :
    StaysOpen depth (c :: cs) ↔ 0 < depth ∧ StaysOpen (depthBehind depth c) cs := by
  constructor
  · intro h
    refine ⟨h.depth_pos, ?_⟩
    intro front hfront
    have hcount := depthBehind_add_count h.depth_pos c front
    have hopen := h (c :: front) (List.cons_prefix_cons.mpr ⟨rfl, hfront⟩)
    omega
  · rintro ⟨hdepth, h⟩ front hfront
    cases front with
    | nil => simpa using hdepth
    | cons d front =>
        obtain ⟨rfl, hbehind⟩ := List.cons_prefix_cons.mp hfront
        have hcount := depthBehind_add_count hdepth d front
        have hopen := h front hbehind
        omega

/-- The depth that a text leaves is the one at which what follows is entered. -/
theorem staysOpen_append_iff :
    StaysOpen depth (front ++ rest) ↔
      StaysOpen depth front ∧ StaysOpen (depth + front.count '(' - front.count ')') rest := by
  induction front generalizing depth with
  | nil =>
      simp only [List.nil_append, staysOpen_nil_iff, List.count_nil, Nat.add_zero, Nat.sub_zero]
      exact ⟨fun h => ⟨h.depth_pos, h⟩, And.right⟩
  | cons c front ih =>
      rw [List.cons_append, staysOpen_cons_iff, staysOpen_cons_iff, ih, and_assoc]
      refine and_congr_right fun hdepth => and_congr_right fun _ => ?_
      rw [depthBehind_add_sub hdepth]

/-- A text that closes no parenthesis stays open. -/
theorem staysOpen_of_not_mem (hdepth : 0 < depth) (hclose : ')' ∉ cs) :
    StaysOpen depth cs := by
  intro front hfront
  have hnone : front.count ')' = 0 := List.count_eq_zero.mpr fun h => hclose (hfront.subset h)
  omega

theorem balanced_cons (hdepth : 0 < depth) (hbehind : 0 < depthBehind depth c) :
    balanced depth (c :: cs) =
      (balanced (depthBehind depth c) cs).map fun (inner, rest) => (c :: inner, rest) := by
  by_cases hclose : c = ')'
  · subst hclose
    obtain ⟨deeper, rfl⟩ : ∃ deeper, depth = deeper + 2 := by
      simp only [depthBehind, if_true] at hbehind
      exact ⟨depth - 2, by omega⟩
    rfl
  · rw [balanced.eq_def]
    simp only [hclose, if_false, depthBehind]

/-- Behind a text that stays open the reader is at the depth that the text
leaves. -/
theorem balanced_append (h : StaysOpen depth front) (rest : List Char) :
    balanced depth (front ++ rest) =
      (balanced (depth + front.count '(' - front.count ')') rest).map
        fun (inner, after) => (front ++ inner, after) := by
  induction front generalizing depth with
  | nil => simp
  | cons c front ih =>
      obtain ⟨hdepth, hfront⟩ := staysOpen_cons_iff.mp h
      rw [List.cons_append, balanced_cons hdepth hfront.depth_pos, ih hfront,
        depthBehind_add_sub hdepth, Option.map_map]
      rfl

/-- A text stays open, or there is a first parenthesis at which it balances. -/
theorem staysOpen_or_closes (hdepth : 0 < depth) (cs : List Char) :
    StaysOpen depth cs ∨ ∃ inner rest, cs = inner ++ ')' :: rest ∧ StaysOpen depth inner ∧
      inner.count ')' + 1 = depth + inner.count '(' := by
  induction cs generalizing depth with
  | nil => exact .inl (staysOpen_nil_iff.mpr hdepth)
  | cons c cs ih =>
      by_cases hbehind : 0 < depthBehind depth c
      · rcases ih hbehind with hopen | ⟨inner, rest, rfl, hopen, hcloses⟩
        · exact .inl (staysOpen_cons_iff.mpr ⟨hdepth, hopen⟩)
        · have hcount := depthBehind_add_count hdepth c inner
          exact .inr ⟨c :: inner, rest, rfl, staysOpen_cons_iff.mpr ⟨hdepth, hopen⟩, by omega⟩
      · -- only a parenthesis that closes the last one open gets there
        have hclose : c = ')' ∧ depth = 1 := by
          simp only [depthBehind] at hbehind
          split at hbehind
          · next hclose => exact ⟨hclose, by omega⟩
          · split at hbehind <;> omega
        obtain ⟨rfl, rfl⟩ := hclose
        exact .inr ⟨[], cs, rfl, staysOpen_nil_iff.mpr hdepth, rfl⟩

theorem balanced_of_staysOpen (h : StaysOpen depth cs) : balanced depth cs = none := by
  have happend := balanced_append h []
  rwa [List.append_nil] at happend

theorem balanced_of_closes (h : StaysOpen depth inner)
    (hcloses : inner.count ')' + 1 = depth + inner.count '(') (rest : List Char) :
    balanced depth (inner ++ ')' :: rest) = some (inner, rest) := by
  have hone : depth + inner.count '(' - inner.count ')' = 1 := by omega
  rw [balanced_append h, hone]
  show some (inner ++ [], rest) = _
  rw [List.append_nil]

/-- Behind a first parenthesis, staying open means that no beginning
balances. -/
theorem staysOpen_one_iff :
    StaysOpen 1 cs ↔ ∀ front, front <+: '(' :: cs → front ≠ [] → ¬ Balances front := by
  constructor
  · intro h front hfront hne hbalances
    cases front with
    | nil => exact hne rfl
    | cons c front =>
        obtain ⟨rfl, hbehind⟩ := List.cons_prefix_cons.mp hfront
        have hopen := h front hbehind
        simp [Balances] at hbalances
        omega
  · intro h
    rcases staysOpen_or_closes Nat.one_pos cs with hopen | ⟨inner, rest, rfl, -, hcloses⟩
    · exact hopen
    · refine absurd ?_ (h ('(' :: (inner ++ [')'])) ⟨rest, by simp⟩ (List.cons_ne_nil _ _))
      simp [Balances]
      omega

/-- A group is a pair of parentheses around a text that stays open and opens as
many as it closes. -/
theorem isGroup_iff :
    IsGroup group ↔
      ∃ inner, group = '(' :: (inner ++ [')']) ∧ StaysOpen 1 inner ∧ Balances inner := by
  constructor
  · intro h
    obtain ⟨cs, rfl⟩ := List.head?_eq_some_iff.mp h.opens
    rcases staysOpen_or_closes Nat.one_pos cs with hopen | ⟨inner, rest, rfl, hopen, hcloses⟩
    · exact absurd h.balances
        (staysOpen_one_iff.mp hopen _ List.prefix_rfl (List.cons_ne_nil _ _))
    · have hinner : Balances inner := by
        unfold Balances
        omega
      have hwhole : '(' :: (inner ++ [')']) = '(' :: (inner ++ ')' :: rest) := by
        refine h.shortest _ ⟨rest, by simp⟩ (List.cons_ne_nil _ _) ?_
        simp [Balances]
        omega
      exact ⟨inner, hwhole.symm, hopen, hinner⟩
  · rintro ⟨inner, rfl, hopen, hbalances⟩
    refine ⟨rfl, ?_, ?_⟩
    · simp [Balances] at hbalances ⊢
      omega
    · intro front hfront hne hfrontBalances
      -- a beginning that leaves the last parenthesis out is one of a text that stays open
      rw [← List.cons_append, List.prefix_concat_iff] at hfront
      rcases hfront with heq | hfront
      · exact heq
      · exact absurd hfrontBalances (staysOpen_one_iff.mp hopen front hfront hne)

/-- The reader finds the end of a group. -/
theorem balanced_eq_some_iff :
    balanced 1 cs = some (inner, rest) ↔
      cs = inner ++ ')' :: rest ∧ IsGroup ('(' :: (inner ++ [')'])) := by
  constructor
  · intro h
    rcases staysOpen_or_closes Nat.one_pos cs with hopen | ⟨inside, after, rfl, hopen, hcloses⟩
    · rw [balanced_of_staysOpen hopen] at h
      cases h
    · rw [balanced_of_closes hopen hcloses] at h
      obtain ⟨rfl, rfl⟩ := Prod.mk.inj (Option.some.inj h)
      refine ⟨rfl, isGroup_iff.mpr ⟨inside, rfl, hopen, ?_⟩⟩
      unfold Balances
      omega
  · rintro ⟨rfl, hgroup⟩
    obtain ⟨inside, heq, hopen, hbalances⟩ := isGroup_iff.mp hgroup
    obtain rfl : inner = inside := List.append_cancel_right (List.cons.inj heq).2
    refine balanced_of_closes hopen ?_ rest
    unfold Balances at hbalances
    omega

/-- The reader finds no end exactly if no beginning balances. -/
theorem balanced_eq_none_iff :
    balanced 1 cs = none ↔ ∀ front, front <+: '(' :: cs → front ≠ [] → ¬ Balances front := by
  rw [← staysOpen_one_iff]
  constructor
  · intro h
    rcases staysOpen_or_closes Nat.one_pos cs with hopen | ⟨inner, rest, rfl, hopen, hcloses⟩
    · exact hopen
    · rw [balanced_of_closes hopen hcloses] at h
      cases h
  · exact balanced_of_staysOpen

end Groups

end Reference

end SqlMapper
