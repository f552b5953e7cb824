import SqlMapper.Mapper.Arguments
import SqlMapper.Proofs.Template.ReferenceGrammar
import SqlMapper.Proofs.Text.Segments
import SqlMapper.Session.Binding

/-!
# References that are plain names

A plain name has no character that means something in a reference or in a
path. As the content of a token it is a reference to the property of that
name and nothing more, and as a path it is one step. On a parameter bag such
a reference sends the argument of that name as it is, if it is a scalar.

## Main definitions

* `IsPlainName` — a name without characters that mean something.

## Main results

* `Reference.parse_of_plain` — what a plain name means as a reference.
* `TypeSystem.mappingOf_of_plain` — its mapping on a parameter bag.
* `boundValue_of_plain` — the value that it sends.
-/

namespace SqlMapper

/-! ## Plain names -/

/-- The characters besides blanks that mean something in a reference, in a
path or at the end of a token. -/
def specialCharacters : List Char := ['(', ',', ':', '.', '[', '\\', '\x7d']

/-- The character means nothing but itself. -/
def IsNameCharacter (c : Char) : Prop := Text.isBlank c = false ∧ c ∉ specialCharacters

instance (c : Char) : Decidable (IsNameCharacter c) := inferInstanceAs (Decidable (_ ∧ _))

/-- The name is there, and every character means nothing but itself. -/
def IsPlainName (name : String) : Prop := name ≠ "" ∧ ∀ c ∈ name.toList, IsNameCharacter c

-- the characters of the name are tried, not all characters
instance (name : String) : Decidable (IsPlainName name) :=
  @instDecidableAnd _ _ _ (List.decidableBAll IsNameCharacter name.toList)

/-- Letters and digits are name characters. -/
theorem isNameCharacter_of_isAlphanum {c : Char} (h : c.isAlphanum = true) :
    IsNameCharacter c := by
  have hbounds : (48 ≤ c.toNat ∧ c.toNat ≤ 57) ∨ (65 ≤ c.toNat ∧ c.toNat ≤ 90) ∨
      (97 ≤ c.toNat ∧ c.toNat ≤ 122) := by
    have hrange {lo hi : UInt32} (h : (decide (c.val ≥ lo) && decide (c.val ≤ hi)) = true) :
        lo.toNat ≤ c.toNat ∧ c.toNat ≤ hi.toNat :=
      ((Bool.and_eq_true _ _).mp h).imp of_decide_eq_true of_decide_eq_true
    rcases (Bool.or_eq_true _ _).mp h with hletter | hdigit
    · rcases (Bool.or_eq_true _ _).mp hletter with hupper | hlower
      · exact .inr (.inl (of_decide_eq_true hupper))
      · exact .inr (.inr (hrange hlower))
    · exact .inl (hrange hdigit)
  constructor
  · simp [Text.isBlank]
    omega
  · intro hmem
    simp only [specialCharacters, List.mem_cons, List.not_mem_nil, or_false] at hmem
    rcases hmem with rfl | rfl | rfl | rfl | rfl | rfl | rfl <;> simp at hbounds

/-- Letters, digits and underscores make plain names. -/
theorem isPlainName_of_identifier {name : String} (hne : name ≠ "")
    (h : ∀ c ∈ name.toList, c.isAlphanum = true ∨ c = '_') : IsPlainName name := by
  refine ⟨hne, ?_⟩
  intro c hc
  rcases h c hc with hc | rfl
  · exact isNameCharacter_of_isAlphanum hc
  · decide

theorem isPlainName_positionalName (position : Nat) : IsPlainName (positionalName position) := by
  apply isPlainName_of_identifier
  · intro h
    have := congrArg String.length h
    simp [positionalName] at this
  · intro c hc
    rw [positionalName, String.toList_append, List.mem_append] at hc
    rcases hc with hc | hc
    · have hall : "param".toList.all Char.isAlphanum = true := by decide
      exact .inl (List.all_eq_true.mp hall c hc)
    · rw [Text.decimal, String.toList_ofList] at hc
      have hdigit := Nat.isDigit_of_mem_toDigits (by omega) (by omega) hc
      exact .inl (by simp [Char.isAlphanum, hdigit])

namespace IsPlainName

variable {name : String}

theorem not_mem {c : Char} (h : IsPlainName name) (hc : c ∈ specialCharacters) :
    c ∉ name.toList := fun hmem => (h.2 c hmem).2 hc

theorem toList_ne_nil (h : IsPlainName name) : name.toList ≠ [] := by
  intro hnil
  exact h.1 (String.toList_inj.mp hnil)

theorem not_isBlank {c : Char} (h : IsPlainName name) (hc : c ∈ name.toList) :
    Text.isBlank c = false := (h.2 c hc).1

theorem not_isPadding {c : Char} (h : IsPlainName name) (hc : c ∈ name.toList) :
    Text.isPadding c = false := by
  by_contra hpadding
  have hblank := Text.isBlank_of_isPadding (Bool.not_eq_false _ ▸ hpadding)
  rw [h.not_isBlank hc] at hblank
  cases hblank

end IsPlainName

/-! ## As a reference -/

private theorem dropWhile_of_forall_not {p : Char → Bool} {cs : List Char}
    (h : ∀ c ∈ cs, p c = false) : cs.dropWhile p = cs := by
  cases cs with
  | nil => rfl
  | cons c cs => rw [List.dropWhile_cons, if_neg (by simp [h c])]

namespace Reference

variable {name : String}

/-- Nothing is trimmed from a plain name. -/
theorem part_of_plain (h : IsPlainName name) : part name.toList = name := by
  have hstart : Text.trimStart name.toList = name.toList :=
    dropWhile_of_forall_not fun c hc => h.not_isBlank hc
  have hend : Text.trimEnd name.toList = name.toList := by
    rw [Text.trimEnd, dropWhile_of_forall_not fun c hc => h.not_isBlank (List.mem_reverse.mp hc),
      List.reverse_reverse]
  rw [part, Text.trimChars, hstart, hend, String.ofList_toList]

/-- A plain name goes up to the end as the head of a reference. -/
theorem isHead_of_plain (h : IsPlainName name) : IsHead name.toList [] := by
  have hopen : name.toList.head? ≠ some '(' := fun hhead =>
    h.not_mem (by decide) (List.mem_of_head? hhead)
  refine .property h.toList_ne_nil hopen ⟨?_, by simp⟩
  intro c hc
  have hcomma : c ≠ ',' := fun heq => h.not_mem (by decide) (heq ▸ hc)
  have hcolon : c ≠ ':' := fun heq => h.not_mem (by decide) (heq ▸ hc)
  simp [outside, hcomma, hcolon]

/-- A plain name is a reference to the property of that name. -/
theorem parse_of_plain (h : IsPlainName name) :
    parse name = .ok { head := .property name, shorthand := none, options := [] } := by
  let w : WrittenReference := ⟨[], name.toList, [], none, [], []⟩
  have hhead := isHead_of_plain h
  have htext : w.text = name.toList := List.append_nil _
  have hpadding : LongestRun Text.isPadding [] (name.toList ++ []) := by
    refine ⟨by simp, ?_⟩
    intro c hc
    rw [List.append_nil] at hc
    exact h.not_isPadding (List.mem_of_head? hc)
  have hgap : LongestRun Text.isPadding [] ([] : List Char) := ⟨by simp, by simp⟩
  have hfits : w.Fits := ⟨hpadding, hhead, hgap, by simp [w], trivial⟩
  have hkept : keptHead name.toList = .property name := by
    rw [keptHead, if_neg, part_of_plain h]
    exact fun hopen => h.not_mem (by decide) (List.mem_of_head? hopen)
  refine parse_eq_ok_iff.mpr ⟨w, htext, ⟨hfits, List.forall_mem_nil _⟩, ?_⟩
  rw [WrittenReference.reference, hkept]
  rfl

end Reference

/-! ## As a mapping on a parameter bag -/

/-- The mapping of the argument of the given name. -/
def ParameterMapping.ofArgument (name : String) : ParameterMapping where
  property := name
  mode := .input
  type := .any
  wire := none
  scale := none
  resultMap := none
  wireName := none
  handler := .unknown

/-- A plain name is mapped to the argument of that name. -/
theorem TypeSystem.mappingOf_of_plain {types : TypeSystem} {name : String}
    (hhandlers : types.handlers = .initial) (h : IsPlainName name) :
    types.mappingOf name .params = .ok (.ofArgument name) := by
  have hchoose : HandlerRegistry.initial.choose types.family .any none = .unknown := rfl
  rw [mappingOf, Reference.parse_of_plain h]
  show Except.ok { ParameterMapping.ofArgument name with
    handler := types.handlers.choose types.family .any none } = _
  rw [hhandlers, hchoose]
  rfl

/-! ## As a path -/

/-- A plain name is a path of one step. -/
theorem Path.segments_of_plain {name : String} (h : IsPlainName name) :
    (ofString name).segments = [{ text := name, name, index := none }] := by
  rw [segments_ofString, Text.splitAt_of_not_mem (h.not_mem (by decide)), List.map_singleton,
    Segment.ofChars, Text.cutFirst_of_not_mem (h.not_mem (by decide))]
  simp

/-- From a parameter bag a plain name reads the argument of that name. -/
theorem Value.readPath_of_plain {describe : Describe} {bag : Bag} {name : String}
    (h : IsPlainName name) : (Value.params bag).readPath describe name = bag.get name := by
  rw [readPath, readSegments, Path.segments_of_plain h, List.foldlM_cons]
  show (do List.foldlM _ (← bag.get name) []) = bag.get name
  cases bag.get name <;> rfl

/-- On a parameter bag a plain name sends the argument of that name, if that
is a scalar. -/
theorem boundValue_of_plain {types : TypeSystem} {bag : Bag} {name : String} {value : Value}
    (h : IsPlainName name) (hfound : bag.find? name = some value)
    (hscalar : value.isScalar = true) :
    boundValue types (.params bag) (.ofArgument name) = .ok value := by
  have hwhole : sentWhole types (.params bag) = false := rfl
  have hmapped : mappedValue types (.params bag) (.ofArgument name) = .ok value := by
    rw [mappedValue, if_neg (by simp [Value.isNull]), hwhole, if_neg (by simp)]
    show (Value.params bag).readPath types.family.describe name = _
    rw [Value.readPath_of_plain h, Bag.get, hfound]
  rw [boundValue, hmapped, if_neg (by simp [ParameterMapping.ofArgument])]
  show Handler.unknown.toWire value none = _
  simp [Handler.unknown, hscalar]

end SqlMapper
