import SqlMapper.Proofs.Run
import SqlMapper.Proofs.Template.ReferenceParts
import SqlMapper.Proofs.Text.Trimming

/-!
# The grammar of references

The texts that are references, said without the reader:

```
W H W [":" T] ("," W K ["=" V])* R
```

`W` is padding, `H` a group in parentheses or else a run up to a comma or a
colon, `T` and `V` are runs up to a comma that are not empty, `K` is a run up to
an equals sign or a comma, and `R` is blank. Every run is as long as possible,
and that is all the grammar says: it is not said of the optional parts that they
have to be there where they can be. That they are read wherever they can be
follows, since no mark is blank.

The pieces of one text are kept together with the text (`WrittenReference`). So
the reader accepts a text exactly if the text has such pieces, and what it
answers is made of them (`parse_eq_ok_iff`).

## Main definitions

* `WrittenReference`, `WrittenOption` — the pieces of a text.
* `WrittenReference.Fits` — every run is as long as possible.
* `WrittenReference.IsGrammatical` — nothing but blanks is left over.

## Main results

* `read_text`, `exists_of_read` — the reader takes the pieces that fit and no
  others.
* `parse_eq_ok_iff` — what is accepted and what the answer is.
* `accepts_iff_grammatical` — acceptance by grammar, with the texts that fail.
-/

namespace SqlMapper

namespace Reference

/-! ## The pieces of a text -/

/-- An option as it is written behind its comma. -/
structure WrittenOption where
  padding : List Char
  key : List Char
  /-- The value behind the equals sign. -/
  value : Option (List Char)
  deriving DecidableEq

/-- A reference as it is written, and what is left over. -/
structure WrittenReference where
  padding : List Char
  /-- The property, or the expression with its parentheses. -/
  head : List Char
  /-- The padding behind the head. -/
  gap : List Char
  /-- The type behind the colon. -/
  type : Option (List Char)
  options : List WrittenOption
  rest : List Char
  deriving DecidableEq

namespace WrittenOption

/-- The option and what follows it. -/
def before (o : WrittenOption) (after : List Char) : List Char :=
  ',' :: (o.padding ++ (o.key ++ marked '=' o.value after))

/-- Key and value as they are kept. -/
def pair (o : WrittenOption) : String × String := (part o.key, part (o.value.getD []))

/-- The runs of the option are as long as possible. -/
structure Fits (o : WrittenOption) (after : List Char) : Prop where
  padding : LongestRun Text.isPadding o.padding (o.key ++ marked '=' o.value after)
  key : LongestRun (outside ['=', ',']) o.key (marked '=' o.value after)
  value : ∀ value ∈ o.value, IsPiece value after

end WrittenOption

/-- The runs of the options are as long as possible, each before what
follows it. -/
def OptionsFit (rest : List Char) : List WrittenOption → Prop
  | [] => True
  | o :: os => o.Fits (os.foldr WrittenOption.before rest) ∧ OptionsFit rest os

/-- The head is a group, or else a run up to a comma or a colon. -/
inductive IsHead (head rest : List Char) : Prop
  | group (h : IsGroup head)
  | property (hne : head ≠ []) (hopen : head.head? ≠ some '(')
      (hrun : LongestRun (outside [',', ':']) head rest)

/-- The head as it is kept: an expression without its parentheses. -/
def keptHead (head : List Char) : ReferenceHead :=
  if head.head? = some '(' then .expression (part head.tail.dropLast) else .property (part head)

namespace WrittenReference

/-- The options and what is left over. -/
def optionsText (w : WrittenReference) : List Char := w.options.foldr WrittenOption.before w.rest

/-- What stands behind the head. -/
def behindHead (w : WrittenReference) : List Char := w.gap ++ marked ':' w.type w.optionsText

def text (w : WrittenReference) : List Char := w.padding ++ (w.head ++ w.behindHead)

/-- The reference that the pieces make. -/
def reference (w : WrittenReference) : Reference where
  head := keptHead w.head
  shorthand := w.type.map part
  options := w.options.map WrittenOption.pair

/-- What is left over, as a cause: it begins at a byte. -/
def leftOver (w : WrittenReference) : ReferenceFault :=
  .leftOver (Text.utf8Length w.text - Text.utf8Length w.rest)

/-- The head is one, and every run is as long as possible. -/
structure Fits (w : WrittenReference) : Prop where
  padding : LongestRun Text.isPadding w.padding (w.head ++ w.behindHead)
  head : IsHead w.head w.behindHead
  gap : LongestRun Text.isPadding w.gap (marked ':' w.type w.optionsText)
  type : ∀ type ∈ w.type, IsPiece type w.optionsText
  options : OptionsFit w.rest w.options

/-- The pieces fit and what is left over is blank. -/
structure IsGrammatical (w : WrittenReference) : Prop where
  fits : w.Fits
  blank : Text.Blank w.rest

/-- Nothing that is left over can be read as one more piece. -/
structure Ends (w : WrittenReference) : Prop where
  noOption : w.rest.head? ≠ some ','
  noType : w.options = [] → w.type = none → NothingMarked ':' w.rest
  noValue : ∀ o ∈ w.options.getLast?, o.value = none → NothingMarked '=' w.rest

end WrittenReference

/-! ## Reading the options -/

section Options

variable {rest : List Char} {o : WrittenOption} {os : List WrittenOption}

theorem readOption_before {after : List Char} (hfits : o.Fits after)
    (hends : o.value = none → NothingMarked '=' after) :
    readOption (o.padding ++ (o.key ++ marked '=' o.value after)) = (o.pair, after) := by
  have hskip := skipPadding_eq_iff.mpr ⟨o.padding, rfl, hfits.padding⟩
  have hrun := run_eq_iff.mpr ⟨rfl, hfits.key⟩
  have hvalue := readMarked?_eq_iff.mpr ⟨rfl, hfits.value, hends⟩
  simp only [readOption, hskip, hrun, hvalue]
  rfl

theorem exists_of_readOption (cs : List Char) :
    ∃ o : WrittenOption, cs = o.padding ++ (o.key ++ marked '=' o.value (readOption cs).2) ∧
      o.Fits (readOption cs).2 ∧ o.pair = (readOption cs).1 := by
  obtain ⟨padding, hcs, hpadding⟩ := skipPadding_eq_iff.mp (rfl : skipPadding cs = _)
  cases hrun : run ['=', ','] (skipPadding cs) with
  | mk key behindKey =>
      cases hmarked : readMarked? '=' behindKey with
      | mk value rest =>
          have hread : readOption cs = ((part key, part (value.getD [])), rest) := by
            simp only [readOption, hrun, hmarked]
          obtain ⟨hkeyText, hkey⟩ := run_eq_iff.mp hrun
          obtain ⟨rfl, hvalue, -⟩ := readMarked?_eq_iff.mp hmarked
          rw [hkeyText] at hcs hpadding
          rw [hread]
          exact ⟨⟨padding, key, value⟩, hcs, ⟨hpadding, hkey, hvalue⟩, rfl⟩

theorem readOptions_of_head? (h : rest.head? ≠ some ',') : readOptions rest = ([], rest) := by
  rw [readOptions]
  rintro after rfl
  exact h rfl

theorem readOptions_cons (cs : List Char) :
    readOptions (',' :: cs) =
      ((readOption cs).1 :: (readOptions (readOption cs).2).1, (readOptions (readOption cs).2).2) := by
  rw [readOptions]

/-- What follows an option that is not the last one begins with a comma. -/
theorem nothingMarked_foldr (hne : os ≠ []) {mark : Char} (hmark : mark ≠ ',') :
    NothingMarked mark (os.foldr WrittenOption.before rest) := by
  cases os with
  | nil => exact absurd rfl hne
  | cons o os =>
      refine nothingMarked_of_head? ?_
      show some ',' ≠ some mark
      simpa using hmark.symm

/-- Options that fit are read, if nothing behind them can be read as well. -/
theorem readOptions_foldr (hfits : OptionsFit rest os) (hcomma : rest.head? ≠ some ',')
    (hlast : ∀ o ∈ os.getLast?, o.value = none → NothingMarked '=' rest) :
    readOptions (os.foldr WrittenOption.before rest) = (os.map WrittenOption.pair, rest) := by
  induction os with
  | nil => exact readOptions_of_head? hcomma
  | cons o os ih =>
      have hvalue : o.value = none → NothingMarked '=' (os.foldr WrittenOption.before rest) := by
        intro hnone
        cases os with
        | nil => exact hlast o rfl hnone
        | cons next os => exact nothingMarked_foldr (List.cons_ne_nil _ _) (by decide)
      have htail : ∀ o ∈ os.getLast?, o.value = none → NothingMarked '=' rest := by
        intro last hmem
        refine hlast last ?_
        cases os with
        | nil => cases hmem
        | cons next os => exact hmem
      rw [List.foldr_cons, WrittenOption.before, readOptions_cons, readOption_before hfits.1 hvalue,
        ih hfits.2 htail]
      rfl

/-- Whatever is read as options is options that fit. -/
theorem exists_of_readOptions (cs : List Char) :
    ∃ os : List WrittenOption, cs = os.foldr WrittenOption.before (readOptions cs).2 ∧
      OptionsFit (readOptions cs).2 os ∧ os.map WrittenOption.pair = (readOptions cs).1 := by
  induction cs using readOptions.induct with
  | case1 cs _ _ _ ih =>
      obtain ⟨o, htext, hfits, hpair⟩ := exists_of_readOption cs
      obtain ⟨os, hrest, hoptions, hpairs⟩ := ih
      rw [readOptions_cons]
      refine ⟨o :: os, ?_, ⟨hrest ▸ hfits, hoptions⟩, by rw [List.map_cons, hpair, hpairs]⟩
      rw [List.foldr_cons, ← hrest]
      exact congrArg _ htext
  | case2 cs hcomma =>
      have hhead : cs.head? ≠ some ',' := by
        intro hhead
        obtain ⟨tail, rfl⟩ := List.head?_eq_some_iff.mp hhead
        exact hcomma tail rfl
      rw [readOptions_of_head? hhead]
      exact ⟨[], rfl, trivial, rfl⟩

end Options

/-! ## Reading the head -/

section Heads

variable {head rest : List Char}

theorem keptHead_group (inner : List Char) :
    keptHead ('(' :: (inner ++ [')'])) = .expression (part inner) := by
  simp [keptHead]

/-- A head is read up to its end. -/
theorem readHead_append (h : IsHead head rest) :
    readHead (head ++ rest) = .ok (keptHead head, rest) := by
  cases h with
  | group hgroup =>
      obtain ⟨inner, rfl, -⟩ := isGroup_iff.mp hgroup
      have hbalanced : balanced 1 (inner ++ ')' :: rest) = some (inner, rest) :=
        balanced_eq_some_iff.mpr ⟨rfl, hgroup⟩
      rw [keptHead_group, List.cons_append, List.append_assoc, List.singleton_append]
      simp only [readHead, hbalanced]
  | property hne hopen hrun =>
      rw [keptHead, if_neg hopen]
      have hread : run [',', ':'] (head ++ rest) = (head, rest) := run_eq_iff.mpr ⟨rfl, hrun⟩
      unfold readHead
      split
      · next inside heq =>
          cases head with
          | nil => exact absurd rfl hne
          | cons c head => exact absurd (congrArg List.head? heq) hopen
      · rw [hread]
        split
        · next heq => exact absurd (Prod.mk.inj heq).1 hne
        · next heq =>
            obtain ⟨rfl, rfl⟩ := Prod.mk.inj heq
            rfl

/-- Whatever is read as a head is one. -/
theorem exists_of_readHead {cs : List Char} {kept : ReferenceHead}
    (h : readHead cs = .ok (kept, rest)) :
    ∃ head, cs = head ++ rest ∧ IsHead head rest ∧ keptHead head = kept := by
  unfold readHead at h
  split at h
  · next inside =>
      split at h
      · next inner after hbalanced =>
          obtain ⟨rfl, rfl⟩ := Prod.mk.inj (Except.ok.inj h)
          obtain ⟨rfl, hgroup⟩ := balanced_eq_some_iff.mp hbalanced
          exact ⟨'(' :: (inner ++ [')']), by simp, .group hgroup, keptHead_group inner⟩
      · cases h
  · next hopen =>
      split at h
      · cases h
      · next name after hnil hread =>
          obtain ⟨rfl, rfl⟩ := Prod.mk.inj (Except.ok.inj h)
          obtain ⟨rfl, hrun⟩ := run_eq_iff.mp hread
          have hhead : name.head? ≠ some '(' := by
            intro hhead
            obtain ⟨tail, rfl⟩ := List.head?_eq_some_iff.mp hhead
            exact hopen _ rfl
          exact ⟨name, rfl, .property hnil hhead hrun, by rw [keptHead, if_neg hhead]⟩

/-- No head is read where a comma, a colon or the end stands. -/
theorem readHead_of_stop {cs : List Char} (h : ∀ c ∈ cs.head?, c = ',' ∨ c = ':') :
    readHead cs = .error (.noProperty (String.ofList cs)) := by
  have hread : run [',', ':'] cs = ([], cs) := by
    refine run_eq_iff.mpr ⟨rfl, by simp, ?_⟩
    intro c hc
    rcases h c hc with rfl | rfl <;> rfl
  unfold readHead
  split
  · next inside =>
      rcases h '(' rfl with heq | heq <;> cases heq
  · rw [hread]

/-- No head is read where parentheses do not balance. -/
theorem readHead_of_unbalanced {cs : List Char} (hopen : cs.head? = some '(')
    (h : ∀ front, front <+: cs → front ≠ [] → ¬ Balances front) :
    readHead cs = .error (.unbalanced (String.ofList cs)) := by
  obtain ⟨inside, rfl⟩ := List.head?_eq_some_iff.mp hopen
  simp only [readHead, balanced_eq_none_iff.mpr h]

end Heads

/-! ## Reading a reference -/

section References

variable {w : WrittenReference} {content : String} {cs rest : List Char} {r : Reference}

theorem WrittenReference.Ends.nothingMarked (h : w.Ends) (htype : w.type = none) :
    NothingMarked ':' w.optionsText := by
  by_cases hoptions : w.options = []
  · rw [WrittenReference.optionsText, hoptions]
    exact h.noType hoptions htype
  · exact nothingMarked_foldr hoptions (by decide)

/-- Pieces that fit are read, if what is left over is no further piece. -/
theorem read_text (hfits : w.Fits) (hends : w.Ends) :
    read w.text = .ok (w.reference, w.rest) := by
  have hskip : skipPadding w.text = w.head ++ w.behindHead :=
    skipPadding_eq_iff.mpr ⟨w.padding, rfl, hfits.padding⟩
  have hhead : readHead (w.head ++ w.behindHead) = .ok (keptHead w.head, w.behindHead) :=
    readHead_append hfits.head
  have hgap : skipPadding w.behindHead = marked ':' w.type w.optionsText :=
    skipPadding_eq_iff.mpr ⟨w.gap, rfl, hfits.gap⟩
  have htype : readMarked? ':' (marked ':' w.type w.optionsText) = (w.type, w.optionsText) :=
    readMarked?_eq_iff.mpr ⟨rfl, hfits.type, hends.nothingMarked⟩
  have hoptions : readOptions w.optionsText = (w.options.map WrittenOption.pair, w.rest) :=
    readOptions_foldr hfits.options hends.noOption hends.noValue
  rw [read, hskip, hhead]
  show Except.ok (({
    head := keptHead w.head
    shorthand := (readMarked? ':' (skipPadding w.behindHead)).1.map part
    options := (readOptions (readMarked? ':' (skipPadding w.behindHead)).2).1 } : Reference),
    (readOptions (readMarked? ':' (skipPadding w.behindHead)).2).2) = _
  rw [hgap, htype, hoptions]
  rfl

/-- Whatever is read is pieces that fit. -/
theorem exists_of_read (h : read cs = .ok (r, rest)) :
    ∃ w : WrittenReference, w.text = cs ∧ w.Fits ∧ w.rest = rest ∧ w.reference = r := by
  obtain ⟨⟨kept, behindHead⟩, hreadHead, hrest⟩ := exists_of_bind_ok h
  generalize hskip : skipPadding cs = behindPadding at hreadHead
  obtain ⟨padding, rfl, hpadding⟩ := skipPadding_eq_iff.mp hskip
  obtain ⟨head, rfl, hhead, rfl⟩ := exists_of_readHead hreadHead
  dsimp only at hrest
  generalize hgapSkip : skipPadding behindHead = behindGap at hrest
  obtain ⟨gap, rfl, hgap⟩ := skipPadding_eq_iff.mp hgapSkip
  cases hmarked : readMarked? ':' behindGap with
  | mk type optionsText =>
      rw [hmarked] at hrest
      obtain ⟨rfl, rfl⟩ := Prod.mk.inj (Except.ok.inj hrest)
      obtain ⟨rfl, htype, -⟩ := readMarked?_eq_iff.mp hmarked
      obtain ⟨options, htext, hoptions, hpairs⟩ := exists_of_readOptions optionsText
      let w : WrittenReference := ⟨padding, head, gap, type, options, (readOptions optionsText).2⟩
      have hoptionsText : w.optionsText = optionsText := htext.symm
      have hbehind : w.behindHead = gap ++ marked ':' type optionsText := by
        rw [WrittenReference.behindHead, hoptionsText]
      refine ⟨w, ?_, ⟨?_, ?_, ?_, ?_, hoptions⟩, rfl, ?_⟩
      · rw [WrittenReference.text, hbehind]
      · rwa [hbehind]
      · rwa [hbehind]
      · rwa [hoptionsText]
      · rwa [hoptionsText]
      · rw [WrittenReference.reference, hpairs]

theorem WrittenReference.IsGrammatical.ends (h : w.IsGrammatical) : w.Ends := by
  have hhead {c : Char} (hc : Text.isBlank c = false) : w.rest.head? ≠ some c := fun heq =>
    Text.not_mem_of_blank h.blank hc (List.mem_of_head? heq)
  exact ⟨hhead rfl, fun _ _ => nothingMarked_of_head? (hhead rfl),
    fun _ _ _ => nothingMarked_of_head? (hhead rfl)⟩

/-- A text is accepted exactly if it has pieces that fit with nothing but
blanks left over, and the answer is made of them. -/
theorem parse_eq_ok_iff :
    parse content = .ok r ↔
      ∃ w : WrittenReference, w.text = content.toList ∧ w.IsGrammatical ∧ w.reference = r := by
  constructor
  · intro h
    rw [parse] at h
    split at h
    · cases h
    · next reference left hread =>
        split at h
        · next hblank =>
            obtain rfl := Except.ok.inj h
            obtain ⟨w, htext, hfits, rfl, hreference⟩ := exists_of_read hread
            exact ⟨w, htext, ⟨hfits, List.all_eq_true.mp hblank⟩, hreference⟩
        · cases h
  · rintro ⟨w, htext, hgrammatical, rfl⟩
    have hblank : w.rest.all Text.isBlank = true := List.all_eq_true.mpr hgrammatical.blank
    simp only [parse, ← htext, read_text hgrammatical.fits hgrammatical.ends, hblank, if_true]

/-- The reader refuses the text and names the cause. -/
def Refuses (content : String) (cause : ReferenceFault) : Prop :=
  parse content = .error (.builder (.reference content cause))

/-- Where no head can be read behind the padding, the text is refused. -/
theorem refuses_of_readHead {padding : List Char} {cause : ReferenceFault}
    (htext : content.toList = padding ++ rest) (hpadding : ∀ c ∈ padding, Text.isPadding c = true)
    (hstart : ∀ c ∈ rest.head?, Text.isPadding c = false) (hhead : readHead rest = .error cause) :
    Refuses content cause := by
  have hskip : skipPadding content.toList = rest :=
    skipPadding_eq_iff.mpr ⟨padding, htext, hpadding, hstart⟩
  have hread : read content.toList = .error cause := by
    rw [read, hskip, hhead]
    rfl
  rw [Refuses, parse, hread]

/-- What is left over is the cause, if it can be no further piece. -/
theorem refuses_leftOver (htext : w.text = content.toList) (hfits : w.Fits) (hends : w.Ends)
    (hblank : ¬ Text.Blank w.rest) : Refuses content w.leftOver := by
  have hall : w.rest.all Text.isBlank = false := by
    rw [← Bool.not_eq_true, List.all_eq_true]
    exact hblank
  simp only [Refuses, WrittenReference.leftOver, parse, ← htext, read_text hfits hends, hall,
    Bool.false_eq_true, if_false]

/-! ### Texts that are refused -/

/-- Where a comma, a colon or the end stands there is no head. -/
theorem refuses_of_noHead {padding : List Char} (htext : content.toList = padding ++ rest)
    (hpadding : ∀ c ∈ padding, Text.isPadding c = true)
    (hstop : ∀ c ∈ rest.head?, c = ',' ∨ c = ':') :
    Refuses content (.noProperty (String.ofList rest)) := by
  refine refuses_of_readHead htext hpadding ?_ (readHead_of_stop hstop)
  intro c hc
  rcases hstop c hc with rfl | rfl <;> rfl

/-- An open parenthesis behind which nothing balances starts no head. -/
theorem refuses_of_unbalanced {padding : List Char} (htext : content.toList = padding ++ rest)
    (hpadding : ∀ c ∈ padding, Text.isPadding c = true) (hopen : rest.head? = some '(')
    (hnone : ∀ front, front <+: rest → front ≠ [] → ¬ Balances front) :
    Refuses content (.unbalanced (String.ofList rest)) := by
  refine refuses_of_readHead htext hpadding ?_ (readHead_of_unbalanced hopen hnone)
  intro c hc
  rw [hopen] at hc
  cases hc
  rfl

/-- A colon before nothing is left over. -/
theorem refuses_of_bareColon {after : List Char} (htext : w.text = content.toList)
    (hfits : w.Fits) (hoptions : w.options = []) (hrest : w.rest = ':' :: after)
    (hafter : ∀ c ∈ after.head?, c = ',') : Refuses content w.leftOver := by
  have hnothing : NothingMarked ':' w.rest := hrest ▸ nothingMarked_cons hafter
  refine refuses_leftOver htext hfits ⟨by simp [hrest], fun _ _ => hnothing, ?_⟩ ?_
  · simp [hoptions]
  · intro hblank
    exact Text.not_mem_of_blank hblank rfl (hrest ▸ List.mem_cons_self)

/-- An equals sign before nothing is left over. -/
theorem refuses_of_bareEquals {after : List Char} (htext : w.text = content.toList)
    (hfits : w.Fits) (hoptions : w.options ≠ []) (hrest : w.rest = '=' :: after)
    (hafter : ∀ c ∈ after.head?, c = ',') : Refuses content w.leftOver := by
  have hnothing : NothingMarked '=' w.rest := hrest ▸ nothingMarked_cons hafter
  refine refuses_leftOver htext hfits ⟨by simp [hrest], ?_, fun _ _ _ => hnothing⟩ ?_
  · intro hnil
    exact absurd hnil hoptions
  · intro hblank
    exact Text.not_mem_of_blank hblank rfl (hrest ▸ List.mem_cons_self)

/-- Text behind the head that starts neither a type nor an option is left
over. -/
theorem refuses_behindHead (htext : w.text = content.toList) (hfits : w.Fits)
    (hoptions : w.options = []) (hstart : ∀ c ∈ w.rest.head?, c ≠ ':' ∧ c ≠ ',')
    (hblank : ¬ Text.Blank w.rest) : Refuses content w.leftOver := by
  refine refuses_leftOver htext hfits ⟨?_, ?_, ?_⟩ hblank
  · intro hcomma
    exact (hstart ',' hcomma).2 rfl
  · intro _ _
    exact nothingMarked_of_head? fun hcolon => (hstart ':' hcolon).1 rfl
  · simp [hoptions]

/-! ### Acceptance -/

/--
**Acceptance by grammar**: a text is accepted exactly if it has pieces that fit
with nothing but blanks left over. So it is refused

* where there is no head: behind the padding stands a comma, a colon or the end,
* where the head is to be a group and no beginning balances,
* where a colon, or an equals sign behind a key, has nothing before the next
  comma or the end,
* where text stands behind the closing parenthesis that is neither a type nor
  an option and not blank.

And as long as no beginning balances, more parentheses have been opened than
closed, and the reader goes on at just that depth.
-/
theorem accepts_iff_grammatical :
    (∀ content : String, (∃ r, parse content = .ok r) ↔
      ∃ w : WrittenReference, w.text = content.toList ∧ w.IsGrammatical) ∧
    (∀ (content : String) (padding rest : List Char), content.toList = padding ++ rest →
      (∀ c ∈ padding, Text.isPadding c = true) → (∀ c ∈ rest.head?, c = ',' ∨ c = ':') →
      Refuses content (.noProperty (String.ofList rest))) ∧
    (∀ (content : String) (padding rest : List Char), content.toList = padding ++ rest →
      (∀ c ∈ padding, Text.isPadding c = true) → rest.head? = some '(' →
      (∀ front, front <+: rest → front ≠ [] → ¬ Balances front) →
      Refuses content (.unbalanced (String.ofList rest))) ∧
    (∀ (content : String) (w : WrittenReference) (after : List Char), w.text = content.toList →
      w.Fits → w.options = [] → w.rest = ':' :: after → (∀ c ∈ after.head?, c = ',') →
      Refuses content w.leftOver) ∧
    (∀ (content : String) (w : WrittenReference) (after : List Char), w.text = content.toList →
      w.Fits → w.options ≠ [] → w.rest = '=' :: after → (∀ c ∈ after.head?, c = ',') →
      Refuses content w.leftOver) ∧
    (∀ (content : String) (w : WrittenReference), w.text = content.toList → w.Fits →
      IsGroup w.head → w.options = [] → (∀ c ∈ w.rest.head?, c ≠ ':' ∧ c ≠ ',') →
      ¬ Text.Blank w.rest → Refuses content w.leftOver) ∧
    (∀ front rest : List Char,
      (∀ beginning, beginning <+: '(' :: front → beginning ≠ [] → ¬ Balances beginning) →
      front.count ')' < 1 + front.count '(' ∧
      balanced 1 (front ++ rest) =
        (balanced (1 + front.count '(' - front.count ')') rest).map
          fun (inner, after) => (front ++ inner, after)) := by
  refine ⟨?accepts, ?noHead, ?unbalanced, ?bareColon, ?bareEquals, ?behindGroup, ?depth⟩
  case accepts =>
    intro content
    constructor
    · rintro ⟨r, h⟩
      obtain ⟨w, htext, hgrammatical, -⟩ := parse_eq_ok_iff.mp h
      exact ⟨w, htext, hgrammatical⟩
    · rintro ⟨w, htext, hgrammatical⟩
      exact ⟨w.reference, parse_eq_ok_iff.mpr ⟨w, htext, hgrammatical, rfl⟩⟩
  case noHead =>
    intro content padding rest htext hpadding hstop
    exact refuses_of_noHead htext hpadding hstop
  case unbalanced =>
    intro content padding rest htext hpadding hopen hnone
    exact refuses_of_unbalanced htext hpadding hopen hnone
  case bareColon =>
    intro content w after htext hfits hoptions hrest hafter
    exact refuses_of_bareColon htext hfits hoptions hrest hafter
  case bareEquals =>
    intro content w after htext hfits hoptions hrest hafter
    exact refuses_of_bareEquals htext hfits hoptions hrest hafter
  case behindGroup =>
    intro content w htext hfits _ hoptions hstart hblank
    exact refuses_behindHead htext hfits hoptions hstart hblank
  case depth =>
    intro front rest hnone
    have hopen := staysOpen_one_iff.mpr hnone
    exact ⟨hopen front List.prefix_rfl, balanced_append hopen rest⟩

/-- The pieces of a property and a colon behind it. -/
def WrittenReference.propertyExample : WrittenReference where
  padding := []
  head := "id".toList
  gap := []
  type := none
  options := []
  rest := [':']

/-- The pieces of an expression in parentheses with a type and an option. -/
def WrittenReference.expressionExample : WrittenReference where
  padding := [' ']
  head := "(a(b))".toList
  gap := [' ']
  type := some "T".toList
  options := [⟨[' '], "k".toList, some "a=b".toList⟩]
  rest := []

theorem accepts_iff_grammatical_expression :
    (∃ r, parse " (a(b)) :T, k=a=b" = .ok r) ∧ Refuses "id:" (.leftOver 2) ∧
      Refuses "(a(b)" (.unbalanced "(a(b)") := by
  obtain ⟨haccepts, -, hunbalanced, hbareColon, -⟩ := accepts_iff_grammatical
  have hgroup : IsGroup "(a(b))".toList :=
    (balanced_eq_some_iff.mp (rfl : balanced 1 "a(b))".toList = some ("a(b)".toList, []))).2
  have hfits : WrittenReference.expressionExample.Fits := by
    refine ⟨by decide, .group hgroup, by decide, ?_, ⟨⟨by decide, by decide, ?_⟩, trivial⟩⟩
    · rintro type ⟨⟩
      decide
    · rintro value ⟨⟩
      decide
  have hpropertyFits : WrittenReference.propertyExample.Fits := by
    refine ⟨by decide, .property (by decide) (by decide) (by decide), by decide, ?_, trivial⟩
    rintro type ⟨⟩
  refine ⟨?_, ?_, ?_⟩
  · exact (haccepts " (a(b)) :T, k=a=b").mpr
      ⟨.expressionExample, rfl, hfits, List.forall_mem_nil _⟩
  · exact hbareColon "id:" .propertyExample [] rfl hpropertyFits rfl rfl (by simp)
  · exact hunbalanced "(a(b)" [] "(a(b)".toList rfl (List.forall_mem_nil _) rfl
      (balanced_eq_none_iff.mp (rfl : balanced 1 "a(b)".toList = none))

end References

end Reference

end SqlMapper
