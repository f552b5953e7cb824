import Mathlib.Data.List.Infix
import SqlMapper.Proofs.Template.ReferenceGrammar

/-!
# Reading references back

A reference can be written in many ways, since padding may stand around each of
its parts. Whichever way it is written, the reader answers with the reference.

The reader takes the longest runs and trims them afterwards, and so it does not
see where the padding ends and the part begins. What carries the proof is that
the runs and the parts meet at the same marks: a part has none of the characters
that its run ends at, and blanks are no marks. A value may have an equals sign
and a type a colon, because those runs end at commas only.

Around parts that are trimmed any blank will do. The parentheses of an expression
are not part of what is trimmed, and before them the reader skips padding
(`Text.isPadding`) only. With any other blank there, the parentheses become part
of a property (`parse_formFeed_expression`).

## Main definitions

* `IsWritable` — a reference whose parts can be told apart when written.
* `WrittenAs` — the texts that write a reference.

## Main results

* `writtenAs_plainText` — every reference is written by its parts alone.
* `parse_writtenAs` — what writes a reference is read as that reference.
-/

namespace SqlMapper

namespace Reference

open Text (Blank)

/-! ## Parts with blanks around -/

section Parts

variable {piece : String} {text front back rest cs : List Char} {stops : List Char} {c : Char}

/-- No blank stands at either end. -/
def IsTrimmed (piece : String) : Prop := Text.trim piece = piece

instance (piece : String) : Decidable (IsTrimmed piece) := inferInstanceAs (Decidable (_ = _))

/-- The text is the piece with blanks around it. -/
inductive Surrounded (piece : String) : List Char → Prop
  | intro {front back : List Char} (hfront : Blank front) (hback : Blank back) :
      Surrounded piece (front ++ (piece.toList ++ back))

theorem surrounded_self (piece : String) : Surrounded piece piece.toList := by
  have h : Surrounded piece ([] ++ (piece.toList ++ [])) :=
    .intro (List.forall_mem_nil _) (List.forall_mem_nil _)
  rwa [List.nil_append, List.append_nil] at h

theorem part_of_surrounded (htrimmed : IsTrimmed piece) (h : Surrounded piece text) :
    part text = piece := by
  obtain ⟨hfront, hback⟩ := h
  rw [part, ← List.append_assoc, Text.trimChars_between hfront _ hback]
  exact htrimmed

/-- Padding is trimmed away with the other blanks. -/
theorem part_skipPadding (cs : List Char) : part (skipPadding cs) = part cs := by
  have hpadding : Blank (cs.takeWhile Text.isPadding) := fun c hc =>
    Text.isBlank_of_isPadding (List.mem_takeWhile_imp hc)
  have hstart : Text.trimStart (skipPadding cs) = Text.trimStart cs := by
    rw [← Text.trimStart_append hpadding, takeWhile_append_skipPadding]
  rw [part, part, Text.trimChars, Text.trimChars, hstart]

/-- Blanks bring in no character that is not blank. -/
theorem Surrounded.not_mem (h : Surrounded piece text) (hblank : Text.isBlank c = false)
    (hc : c ∉ piece.toList) : c ∉ text := by
  obtain ⟨hfront, hback⟩ := h
  simp only [List.mem_append, not_or]
  exact ⟨Text.not_mem_of_blank hfront hblank, hc, Text.not_mem_of_blank hback hblank⟩

theorem Surrounded.ne_nil (h : Surrounded piece text) (hne : piece ≠ "") : text ≠ [] := by
  obtain ⟨-, -⟩ := h
  simp [hne]

/-- A run without stops that ends before a stop is as long as possible. -/
theorem longestRun_outside (hpart : ∀ stop ∈ stops, stop ∉ text)
    (hrest : ∀ c ∈ rest.head?, c ∈ stops) : LongestRun (outside stops) text rest := by
  constructor
  · intro c hc
    simp only [outside, Bool.not_eq_true', List.contains_eq_mem, decide_eq_false_iff_not]
    intro hstop
    exact hpart c hstop hc
  · intro c hc
    simpa [outside] using hrest c hc

/-- Padding stays the longest before more text if that starts with none. -/
theorem longestRun_padding_append (cs : List Char)
    (hrest : ∀ c ∈ rest.head?, Text.isPadding c = false) :
    LongestRun Text.isPadding (cs.takeWhile Text.isPadding) (skipPadding cs ++ rest) := by
  obtain ⟨hall, hstops⟩ := longestRun_takeWhile Text.isPadding cs
  refine ⟨hall, ?_⟩
  change ∀ c ∈ (skipPadding cs).head?, Text.isPadding c = false at hstops
  cases hskip : skipPadding cs with
  | nil => exact hrest
  | cons d ds =>
      rw [hskip] at hstops
      exact hstops

end Parts

/-! ## The references that can be written -/

/-- Nowhere have more parentheses been closed than opened. -/
def ClosesWhatOpens (cs : List Char) : Prop :=
  ∀ front, front <+: cs → front.count ')' ≤ front.count '('

-- the beginnings of the text are tried, not all texts
instance (cs : List Char) : Decidable (ClosesWhatOpens cs) :=
  decidable_of_iff (∀ front ∈ cs.inits, front.count ')' ≤ front.count '(') (by
    simp only [List.mem_inits]
    rfl)

/-- The head can be told from what follows it: a property has neither comma nor
colon and does not open a parenthesis, and the parentheses of an expression
balance. -/
def HeadIsWritable : ReferenceHead → Prop
  | .property path => path ≠ "" ∧ IsTrimmed path ∧ ',' ∉ path.toList ∧ ':' ∉ path.toList ∧
      path.toList.head? ≠ some '('
  | .expression text => IsTrimmed text ∧ Balances text.toList ∧ ClosesWhatOpens text.toList

instance : (head : ReferenceHead) → Decidable (HeadIsWritable head)
  | .property _ => inferInstanceAs (Decidable (_ ∧ _ ∧ _ ∧ _ ∧ _))
  | .expression _ => inferInstanceAs (Decidable (_ ∧ _ ∧ _))

/-- The text is trimmed and goes up to the next comma. -/
def IsCommaFree (piece : String) : Prop := IsTrimmed piece ∧ ',' ∉ piece.toList

instance (piece : String) : Decidable (IsCommaFree piece) := inferInstanceAs (Decidable (_ ∧ _))

/-- Each part is trimmed and has none of the characters that it ends at. -/
structure IsWritable (r : Reference) : Prop where
  head : HeadIsWritable r.head
  type : ∀ type ∈ r.shorthand, type ≠ "" ∧ IsCommaFree type
  keys : ∀ option ∈ r.options, IsCommaFree option.1 ∧ '=' ∉ option.1.toList
  values : ∀ option ∈ r.options, IsCommaFree option.2

instance (r : Reference) : Decidable r.IsWritable :=
  decidable_of_iff (HeadIsWritable r.head ∧ (∀ type ∈ r.shorthand, type ≠ "" ∧ IsCommaFree type) ∧
      (∀ option ∈ r.options, IsCommaFree option.1 ∧ '=' ∉ option.1.toList) ∧
      ∀ option ∈ r.options, IsCommaFree option.2)
    ⟨fun ⟨head, type, keys, values⟩ => ⟨head, type, keys, values⟩,
      fun ⟨head, type, keys, values⟩ => ⟨head, type, keys, values⟩⟩

/-! ## The texts of a reference -/

/-- Something stands behind the head. -/
def hasMore (r : Reference) : Bool := r.shorthand.isSome || !r.options.isEmpty

/-- The texts of a head: a property with blanks around it, or an expression in
parentheses with blanks around it on the inside. On the outside stand characters
that are `padding`, and behind an expression at the end any blanks. -/
inductive HeadWrittenAs (padding : Char → Bool) (more : Bool) : ReferenceHead → List Char → Prop
  | property {path : String} {text : List Char} (h : Surrounded path text) :
      HeadWrittenAs padding more (.property path) text
  | expression {expression : String} {front inside back : List Char}
      (hinside : Surrounded expression inside) (hfront : ∀ c ∈ front, padding c = true)
      (hback : ∀ c ∈ back, (if more then padding c else Text.isBlank c) = true) :
      HeadWrittenAs padding more (.expression expression) (front ++ '(' :: (inside ++ ')' :: back))

/-- The texts of a type behind the head. -/
inductive TypeWrittenAs : Option String → List Char → Prop
  | none : TypeWrittenAs none []
  | some {type : String} {text : List Char} (h : Surrounded type text) :
      TypeWrittenAs (some type) (':' :: text)

/-- The texts of an option. The value is left out exactly if it is empty. -/
inductive OptionWrittenAs : String × String → List Char → Prop
  | key {key : String} {text : List Char} (h : Surrounded key text) :
      OptionWrittenAs (key, "") (',' :: text)
  | value {key value : String} {keyText valueText : List Char} (hne : value ≠ "")
      (hkey : Surrounded key keyText) (hvalue : Surrounded value valueText) :
      OptionWrittenAs (key, value) (',' :: (keyText ++ '=' :: valueText))

/-- The texts of a reference. -/
inductive WrittenAs (padding : Char → Bool) (r : Reference) : List Char → Prop
  | intro {headText typeText : List Char} {optionTexts : List (List Char)}
      (hhead : HeadWrittenAs padding r.hasMore r.head headText)
      (htype : TypeWrittenAs r.shorthand typeText)
      (hoptions : List.Forall₂ OptionWrittenAs r.options optionTexts) :
      WrittenAs padding r (headText ++ (typeText ++ optionTexts.flatten))

/-- The reference with nothing around its parts. -/
def plainText (r : Reference) : List Char :=
  headText r.head ++ (typeText r.shorthand ++ (r.options.map optionText).flatten)
where
  headText : ReferenceHead → List Char
    | .property path => path.toList
    | .expression expression => '(' :: (expression.toList ++ [')'])
  typeText : Option String → List Char
    | none => []
    | some type => ':' :: type.toList
  optionText (option : String × String) : List Char :=
    if option.2 = "" then ',' :: option.1.toList
    else ',' :: (option.1.toList ++ '=' :: option.2.toList)

/-- Every reference is written by its parts alone. -/
theorem writtenAs_plainText (padding : Char → Bool) (r : Reference) :
    r.WrittenAs padding r.plainText := by
  have hhead : HeadWrittenAs padding r.hasMore r.head (plainText.headText r.head) := by
    cases r.head with
    | property path => exact .property (surrounded_self path)
    | expression expression =>
        exact .expression (surrounded_self expression) (List.forall_mem_nil _) (List.forall_mem_nil _)
  have htype : TypeWrittenAs r.shorthand (plainText.typeText r.shorthand) := by
    cases r.shorthand with
    | none => exact .none
    | some type => exact .some (surrounded_self type)
  refine .intro hhead htype ?_
  rw [List.forall₂_map_right_iff, List.forall₂_same]
  rintro ⟨key, value⟩ -
  by_cases hvalue : value = ""
  · subst hvalue
    exact .key (surrounded_self key)
  · rw [plainText.optionText, if_neg hvalue]
    exact .value hvalue (surrounded_self key) (surrounded_self value)

/-! ## The pieces of what is written -/

section Pieces

variable {r : Reference} {option : String × String} {text after typeText : List Char}
  {options : List (String × String)} {optionTexts : List (List Char)}

theorem IsCommaFree.not_mem {piece : String} (h : IsCommaFree piece)
    (hsurrounded : Surrounded piece text) : ',' ∉ text :=
  hsurrounded.not_mem rfl h.2

/-- The runs of a key, before an equals sign or a comma. -/
theorem longestRuns_of_key {key : String} (hkey : IsCommaFree key) (hequals : '=' ∉ key.toList)
    (h : Surrounded key text) {rest : List Char} (hrest : ∀ c ∈ rest.head?, c = '=' ∨ c = ',') :
    LongestRun Text.isPadding (text.takeWhile Text.isPadding) (skipPadding text ++ rest) ∧
      LongestRun (outside ['=', ',']) (skipPadding text) rest := by
  have hsubset := skipPadding_subset text
  constructor
  · refine longestRun_padding_append text ?_
    intro c hc
    rcases hrest c hc with rfl | rfl <;> rfl
  · refine longestRun_outside ?_ (by simpa using hrest)
    simp only [List.mem_cons, List.not_mem_nil, or_false, forall_eq_or_imp, forall_eq]
    exact ⟨fun hc => h.not_mem rfl hequals (hsubset hc), fun hc => hkey.not_mem h (hsubset hc)⟩

/-- A value or a type is a piece, before a comma. -/
theorem IsCommaFree.isPiece {piece : String} (h : IsCommaFree piece) (hne : piece ≠ "")
    (hsurrounded : Surrounded piece text) (hafter : ∀ c ∈ after.head?, c = ',') :
    IsPiece text after := by
  refine ⟨hsurrounded.ne_nil hne, longestRun_outside ?_ (by simpa using hafter)⟩
  simpa using h.not_mem hsurrounded

/-- The pieces of an option, before whatever begins with a comma. -/
theorem OptionWrittenAs.exists_pieces (h : OptionWrittenAs option text)
    (hkey : IsCommaFree option.1 ∧ '=' ∉ option.1.toList) (hvalue : IsCommaFree option.2) :
    ∃ o : WrittenOption, o.pair = option ∧ ∀ after, (∀ c ∈ after.head?, c = ',') →
      o.before after = text ++ after ∧ o.Fits after := by
  obtain ⟨hkey, hequals⟩ := hkey
  cases h with
  | @key key text hsurrounded =>
      refine ⟨⟨text.takeWhile Text.isPadding, skipPadding text, none⟩, ?_, ?_⟩
      · rw [WrittenOption.pair, part_skipPadding, part_of_surrounded hkey.1 hsurrounded]
        rfl
      · intro after hafter
        obtain ⟨hpadding, hrun⟩ := longestRuns_of_key hkey hequals hsurrounded
          fun c hc => .inr (hafter c hc)
        refine ⟨?_, hpadding, hrun, by simp⟩
        rw [WrittenOption.before, marked, ← List.append_assoc, takeWhile_append_skipPadding,
          List.cons_append]
  | @value key value keyText valueText hne hkeySurrounded hvalueSurrounded =>
      refine ⟨⟨keyText.takeWhile Text.isPadding, skipPadding keyText, some valueText⟩, ?_, ?_⟩
      · rw [WrittenOption.pair, part_skipPadding, part_of_surrounded hkey.1 hkeySurrounded,
          Option.getD_some, part_of_surrounded hvalue.1 hvalueSurrounded]
      · intro after hafter
        have hmark : ∀ c ∈ ('=' :: (valueText ++ after)).head?, c = '=' ∨ c = ',' := by simp
        obtain ⟨hpadding, hrun⟩ := longestRuns_of_key hkey hequals hkeySurrounded hmark
        refine ⟨?_, hpadding, hrun, ?_⟩
        · rw [WrittenOption.before, marked, ← List.append_assoc, takeWhile_append_skipPadding,
            List.cons_append, List.append_assoc, List.cons_append]
        · rintro piece ⟨⟩
          exact hvalue.isPiece hne hvalueSurrounded hafter

theorem head?_foldr_before (os : List WrittenOption) :
    ∀ c ∈ (os.foldr WrittenOption.before []).head?, c = ',' := by
  intro c hc
  cases os with
  | nil => cases hc
  | cons o os =>
      cases hc
      rfl

/-- The pieces of the options. -/
theorem exists_options (h : List.Forall₂ OptionWrittenAs options optionTexts)
    (hkeys : ∀ option ∈ options, IsCommaFree option.1 ∧ '=' ∉ option.1.toList)
    (hvalues : ∀ option ∈ options, IsCommaFree option.2) :
    ∃ os : List WrittenOption, os.map WrittenOption.pair = options ∧
      os.foldr WrittenOption.before [] = optionTexts.flatten ∧ OptionsFit [] os := by
  induction h with
  | nil => exact ⟨[], rfl, rfl, trivial⟩
  | cons hoption _ ih =>
      rw [List.forall_mem_cons] at hkeys hvalues
      obtain ⟨o, rfl, hpieces⟩ := hoption.exists_pieces hkeys.1 hvalues.1
      obtain ⟨os, rfl, htext, hfit⟩ := ih hkeys.2 hvalues.2
      obtain ⟨hbefore, hfits⟩ := hpieces _ (head?_foldr_before os)
      refine ⟨o :: os, rfl, ?_, hfits, hfit⟩
      rw [List.foldr_cons, hbefore, htext, List.flatten_cons]

/-- The pieces make the text behind the head, and the type and the options of the
reference. -/
structure MakesBehindHead (r : Reference) (type : Option (List Char)) (os : List WrittenOption)
    (text : List Char) : Prop where
  text_eq : marked ':' type (os.foldr WrittenOption.before []) = text
  type_fits : ∀ piece ∈ type, IsPiece piece (os.foldr WrittenOption.before [])
  options_fit : OptionsFit [] os
  shorthand_eq : type.map part = r.shorthand
  options_eq : os.map WrittenOption.pair = r.options

/-- The pieces of the type and of the options. -/
theorem exists_makesBehindHead (hr : r.IsWritable) (htype : TypeWrittenAs r.shorthand typeText)
    (hoptions : List.Forall₂ OptionWrittenAs r.options optionTexts) :
    ∃ type os, MakesBehindHead r type os (typeText ++ optionTexts.flatten) := by
  obtain ⟨os, hpairs, htext, hfit⟩ := exists_options hoptions hr.keys hr.values
  have htypes := hr.type
  obtain ⟨head, shorthand, options⟩ := r
  cases htype with
  | none => exact ⟨none, os, htext, by simp, hfit, rfl, hpairs⟩
  | @some type text hsurrounded =>
      obtain ⟨hne, hcommaFree⟩ := htypes type rfl
      refine ⟨some text, os, ?_, ?_, hfit, ?_, hpairs⟩
      · rw [marked, htext, List.cons_append]
      · rintro piece ⟨⟩
        exact hcommaFree.isPiece hne hsurrounded (head?_foldr_before os)
      · rw [Option.map_some, part_of_surrounded hcommaFree.1 hsurrounded]

/-- A property with blanks around it is a head, up to a comma or a colon. -/
theorem head_of_property {path : String} (hpath : HeadIsWritable (.property path))
    (h : Surrounded path text) (hafter : ∀ c ∈ after.head?, c = ',' ∨ c = ':') :
    IsHead (skipPadding text) after ∧ keptHead (skipPadding text) = .property path := by
  obtain ⟨hne, htrimmed, hcomma, hcolon, hopen⟩ := hpath
  have hpart : part (skipPadding text) = path := by
    rw [part_skipPadding, part_of_surrounded htrimmed h]
  have hnil : skipPadding text ≠ [] := by
    intro hnil
    rw [hnil] at hpart
    exact hne hpart.symm
  have hstart : (skipPadding text).head? ≠ some '(' := by
    intro hparen
    obtain ⟨tail, hcons⟩ := List.head?_eq_some_iff.mp hparen
    rw [← hpart, part, String.toList_ofList, hcons, Text.head?_trimChars_cons rfl] at hopen
    exact hopen rfl
  have hsubset := skipPadding_subset text
  refine ⟨.property hnil hstart (longestRun_outside ?_ (by simpa using hafter)), ?_⟩
  · simp only [List.mem_cons, List.not_mem_nil, or_false, forall_eq_or_imp, forall_eq]
    exact ⟨fun hc => h.not_mem rfl hcomma (hsubset hc), fun hc => h.not_mem rfl hcolon (hsubset hc)⟩
  · rw [keptHead, if_neg hstart, hpart]

/-- An expression with blanks around it makes a group. -/
theorem isGroup_of_expression {expression : String}
    (hexpression : HeadIsWritable (.expression expression)) (h : Surrounded expression text) :
    IsGroup ('(' :: (text ++ [')'])) := by
  obtain ⟨-, hbalances, hnever⟩ := hexpression
  obtain ⟨hfront, hback⟩ := h
  have hnone {cs : List Char} (hcs : Blank cs) : '(' ∉ cs ∧ ')' ∉ cs :=
    ⟨Text.not_mem_of_blank hcs rfl, Text.not_mem_of_blank hcs rfl⟩
  have hfrontCounts := (hnone hfront).imp List.count_eq_zero.mpr List.count_eq_zero.mpr
  have hbackCounts := (hnone hback).imp List.count_eq_zero.mpr List.count_eq_zero.mpr
  refine isGroup_iff.mpr ⟨_, rfl, ?_, ?_⟩
  · -- the depth is one before the expression and one behind it
    rw [staysOpen_append_iff, hfrontCounts.1, hfrontCounts.2, staysOpen_append_iff]
    refine ⟨staysOpen_of_not_mem Nat.one_pos (hnone hfront).2, ?_, ?_⟩
    · intro front hbegins
      have hle := hnever front hbegins
      omega
    · unfold Balances at hbalances
      refine staysOpen_of_not_mem (by omega) (hnone hback).2
  · simp only [Balances, List.count_append, hfrontCounts, hbackCounts]
    unfold Balances at hbalances
    omega

end Pieces

/-! ## Reading back -/

section ReadingBack

variable {r : Reference} {type : Option (List Char)} {os : List WrittenOption}
  {behind headText : List Char}

theorem hasMore_eq_false_iff : r.hasMore = false ↔ r.shorthand = none ∧ r.options = [] := by
  simp [hasMore]

namespace MakesBehindHead

/-- What stands behind the head begins with a mark. -/
theorem head?_eq (h : MakesBehindHead r type os behind) : ∀ c ∈ behind.head?, c = ',' ∨ c = ':' := by
  intro c hc
  rw [← h.text_eq] at hc
  cases type with
  | none => exact .inl (head?_foldr_before os c hc)
  | some type =>
      cases hc
      exact .inr rfl

theorem not_isPadding (h : MakesBehindHead r type os behind) :
    ∀ c ∈ behind.head?, Text.isPadding c = false := by
  intro c hc
  rcases h.head?_eq c hc with rfl | rfl <;> rfl

/-- Pieces of a head before the other pieces are those of the reference. -/
theorem isGrammatical (h : MakesBehindHead r type os behind) {padding head gap : List Char}
    (hpadding : LongestRun Text.isPadding padding (head ++ (gap ++ behind)))
    (hhead : IsHead head (gap ++ behind)) (hgap : LongestRun Text.isPadding gap behind)
    (hkept : keptHead head = r.head) :
    ∃ w : WrittenReference, w.text = padding ++ (head ++ (gap ++ behind)) ∧ w.IsGrammatical ∧
      w.reference = r := by
  obtain ⟨rfl, htype, hoptions, hshorthand, hpairs⟩ := h
  refine ⟨⟨padding, head, gap, type, os, []⟩, rfl, ⟨?_, List.forall_mem_nil _⟩, ?_⟩
  · exact ⟨hpadding, hhead, hgap, htype, hoptions⟩
  · exact congr (congr (congrArg Reference.mk hkept) hshorthand) hpairs

theorem property (h : MakesBehindHead r type os behind) {path : String}
    (hhead : r.head = .property path) (hwritable : HeadIsWritable (.property path))
    (htext : Surrounded path headText) :
    ∃ w : WrittenReference, w.text = headText ++ behind ∧ w.IsGrammatical ∧ w.reference = r := by
  obtain ⟨hfits, hkept⟩ := head_of_property hwritable htext h.head?_eq
  have hpadding : LongestRun Text.isPadding (headText.takeWhile Text.isPadding)
      (skipPadding headText ++ ([] ++ behind)) := longestRun_padding_append headText h.not_isPadding
  have hgap : LongestRun Text.isPadding [] behind := ⟨List.forall_mem_nil _, h.not_isPadding⟩
  obtain ⟨w, hw, hgrammatical, hreference⟩ :=
    h.isGrammatical hpadding hfits hgap (hkept.trans hhead.symm)
  refine ⟨w, ?_, hgrammatical, hreference⟩
  rw [hw, ← List.append_assoc, takeWhile_append_skipPadding]
  rfl

end MakesBehindHead

/-- The padding before a group is the longest. -/
theorem longestRun_padding_group {front inside rest : List Char}
    (hfront : ∀ c ∈ front, Text.isPadding c = true) :
    LongestRun Text.isPadding front ('(' :: (inside ++ [')']) ++ rest) := by
  refine ⟨hfront, ?_⟩
  rintro c ⟨⟩
  rfl

theorem MakesBehindHead.expression (h : MakesBehindHead r type os behind) {expression : String}
    {front inside back : List Char} (hhead : r.head = .expression expression)
    (hwritable : HeadIsWritable (.expression expression)) (hinside : Surrounded expression inside)
    (hfront : ∀ c ∈ front, Text.isPadding c = true)
    (hback : ∀ c ∈ back, Text.isPadding c = true) :
    ∃ w : WrittenReference, w.text = front ++ '(' :: (inside ++ ')' :: back) ++ behind ∧
      w.IsGrammatical ∧ w.reference = r := by
  have hkept : keptHead ('(' :: (inside ++ [')'])) = r.head := by
    rw [keptHead_group, part_of_surrounded hwritable.1 hinside, hhead]
  obtain ⟨w, hw, hgrammatical, hreference⟩ := h.isGrammatical (longestRun_padding_group hfront)
    (.group (isGroup_of_expression hwritable hinside)) ⟨hback, h.not_isPadding⟩ hkept
  exact ⟨w, by simp [hw], hgrammatical, hreference⟩

/-- Behind an expression at the end, the blanks that are no padding are left
over. -/
theorem exists_of_lastExpression {expression : String} {front inside back : List Char}
    (hwritable : HeadIsWritable (.expression expression)) (hinside : Surrounded expression inside)
    (hfront : ∀ c ∈ front, Text.isPadding c = true) (hback : Blank back) :
    ∃ w : WrittenReference, w.text = front ++ '(' :: (inside ++ ')' :: back) ∧
      w.IsGrammatical ∧ w.reference = ⟨.expression expression, none, []⟩ := by
  have hgroup := isGroup_of_expression hwritable hinside
  have hrest : Blank (skipPadding back) := fun c hc => hback c (skipPadding_subset back hc)
  refine ⟨⟨front, '(' :: (inside ++ [')']), back.takeWhile Text.isPadding, none, [],
    skipPadding back⟩, ?_, ⟨⟨?_, .group hgroup, ?_, by simp, trivial⟩, hrest⟩, ?_⟩
  · show front ++ (_ ++ (back.takeWhile Text.isPadding ++ skipPadding back)) = _
    rw [takeWhile_append_skipPadding]
    simp
  · exact longestRun_padding_group hfront
  · exact longestRun_takeWhile Text.isPadding back
  · rw [WrittenReference.reference, keptHead_group, part_of_surrounded hwritable.1 hinside]
    rfl

/-- Whatever writes a reference is read as that reference. -/
theorem parse_writtenAs {text : String} (hr : r.IsWritable)
    (h : r.WrittenAs Text.isPadding text.toList) : parse text = .ok r := by
  rw [parse_eq_ok_iff]
  generalize text.toList = cs at h
  obtain ⟨hhead, htype, hoptions⟩ := h
  obtain ⟨type, os, hbehind⟩ := exists_makesBehindHead hr htype hoptions
  have hwritable := hr.head
  generalize hkept : r.head = head at hhead hwritable
  cases hhead with
  | property hsurrounded => exact hbehind.property hkept hwritable hsurrounded
  | expression hinside hfront hback =>
      cases hmore : r.hasMore with
      | true =>
          rw [hmore] at hback
          exact hbehind.expression hkept hwritable hinside hfront hback
      | false =>
          rw [hmore] at hback
          obtain ⟨hshorthand, hnil⟩ := hasMore_eq_false_iff.mp hmore
          obtain ⟨w, hw, hgrammatical, hreference⟩ :=
            exists_of_lastExpression hwritable hinside hfront hback
          rw [hshorthand] at htype
          rw [hnil] at hoptions
          cases htype
          cases hoptions
          refine ⟨w, by simpa using hw, hgrammatical, hreference.trans ?_⟩
          exact (congr (congr (congrArg Reference.mk hkept) hshorthand) hnil).symm

/-- An expression with a type and options, one key twice, one key empty. -/
def expressionExample : Reference where
  head := .expression "f (x)"
  shorthand := some "T:=("
  options := [("k", "a=b"), ("k", ""), ("", "=")]

theorem parse_writtenAs_expression :
    parse "\t( f (x)\u00a0) : T:=(\x0c,\x0ck = a=b ,k,==" = .ok expressionExample := by
  have hblank {cs : List Char} (h : cs.all Text.isBlank = true) : Blank cs := List.all_eq_true.mp h
  have hhead : HeadWrittenAs Text.isPadding true (.expression "f (x)")
      (['\t'] ++ '(' :: ([' '] ++ ("f (x)".toList ++ ['\u00a0']) ++ ')' :: [' '])) :=
    .expression (.intro (hblank rfl) (hblank rfl)) (List.all_eq_true.mp rfl)
      (List.all_eq_true.mp rfl)
  have htype : TypeWrittenAs (some "T:=(") (':' :: ([' '] ++ ("T:=(".toList ++ ['\x0c']))) :=
    .some (.intro (hblank rfl) (hblank rfl))
  have hfirst : OptionWrittenAs ("k", "a=b")
      (',' :: (['\x0c'] ++ ("k".toList ++ [' ']) ++ '=' :: ([' '] ++ ("a=b".toList ++ [' '])))) :=
    .value (by decide) (.intro (hblank rfl) (hblank rfl)) (.intro (hblank rfl) (hblank rfl))
  have hsecond : OptionWrittenAs ("k", "") (',' :: "k".toList) := .key (surrounded_self "k")
  have hthird : OptionWrittenAs ("", "=") (',' :: ("".toList ++ '=' :: "=".toList)) :=
    .value (by decide) (surrounded_self "") (surrounded_self "=")
  have hoptions := List.Forall₂.cons hfirst (.cons hsecond (.cons hthird .nil))
  have hwritten : expressionExample.WrittenAs Text.isPadding _ := .intro hhead htype hoptions
  exact parse_writtenAs (by decide) hwritten

/-- Space, tab, line feed, form feed or carriage return. -/
def isAsciiSpace (c : Char) : Bool := Text.isPadding c || c == '\x0c'

/-- A form feed before the parenthesis makes it part of a property. -/
theorem parse_formFeed_expression :
    IsWritable ⟨.expression "a", none, []⟩ ∧
    WrittenAs isAsciiSpace ⟨.expression "a", none, []⟩ "\x0c(a)".toList ∧
    parse "\x0c(a)" ≠ .ok ⟨.expression "a", none, []⟩ ∧
    parse "\x0c(a)" = .ok ⟨.property "(a)", none, []⟩ := by
  have hread : parse "\x0c(a)" = .ok ⟨.property "(a)", none, []⟩ := by
    refine parse_eq_ok_iff.mpr ⟨⟨[], "\x0c(a)".toList, [], none, [], []⟩, rfl,
      ⟨⟨by decide, ?_, by decide, by simp, trivial⟩, List.forall_mem_nil _⟩, by decide⟩
    exact .property (by decide) (by decide) (by decide)
  have hwritten : WrittenAs isAsciiSpace ⟨.expression "a", none, []⟩
      ((['\x0c'] ++ '(' :: ("a".toList ++ ')' :: [])) ++ ([] ++ [].flatten)) :=
    .intro (.expression (surrounded_self "a") (List.all_eq_true.mp rfl) (List.forall_mem_nil _))
      .none .nil
  refine ⟨by decide, hwritten, ?_, hread⟩
  rw [hread]
  intro heq
  cases heq

end ReadingBack

end Reference

end SqlMapper
