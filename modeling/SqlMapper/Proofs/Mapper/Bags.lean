import Mathlib.Data.List.Nodup
import SqlMapper.Mapper.Arguments
import SqlMapper.Proofs.Association

/-!
# What the names of a call denote

Several arguments become a bag. Every effective name stands in it for the
argument of its parameter. A positional name stands for the argument at its
position, unless it is the effective name of a parameter: the parameter's
name then comes first, wherever that parameter stands.

## Main definitions

* `Denotes` — the argument that a name denotes, said by names and positions.

## Main results

* `Bag.find?_addArguments_of_mem` — an effective name in the bag.
* `Bag.find?_of_positional` — a positional name in the bag.
* `Bag.find?_of_denotes` — the bag of a call holds what its names denote.
* `Denotes.unique` — a name denotes one argument.
-/

namespace SqlMapper

/-- The argument that a name denotes in a call: the one of the parameter of
that name, or else, for a positional name, the one at that position. -/
inductive Denotes (names : List String) (arguments : List Value) : String → Value → Prop
  | effective {i : Nat} {name : String} {value : Value} (hname : names[i]? = some name)
      (hvalue : arguments[i]? = some value) : Denotes names arguments name value
  | positional {i : Nat} {value : Value} (hfree : positionalName (i + 1) ∉ names)
      (hvalue : arguments[i]? = some value) :
      Denotes names arguments (positionalName (i + 1)) value

/-- Different numbers have different numerals. -/
theorem Text.decimal_inj {i j : Nat} (h : decimal i = decimal j) : i = j := by
  have hdigits := congrArg (fun s => Nat.ofDigitChars 10 s.toList 0) h
  simpa only [decimal, String.toList_ofList, Nat.ofDigitChars_ten_toDigits] using hdigits

/-- Positions have different names. -/
theorem positionalName_inj {i j : Nat} (h : positionalName i = positionalName j) : i = j :=
  Text.decimal_inj (String.append_right_inj _ |>.mp h)

namespace Bag

variable {all : List String} {position : Nat} {arguments : List (String × Value)} {bag : Bag}

/-- An effective name stands for the last argument that was put under it. -/
theorem find?_addArguments_of_mem {name : String} (h : name ∈ all) :
    Entries.find? name (addArguments all position arguments bag) =
      (Entries.find? name arguments.reverse).or (Entries.find? name bag) := by
  induction arguments generalizing position bag with
  | nil => rfl
  | cons argument arguments ih =>
      obtain ⟨n, v⟩ := argument
      -- A positional name that is put is no effective name, so it hides none.
      have hput : Entries.find? name (if positionalName position ∈ all then bag.put n v
          else (bag.put n v).put (positionalName position) v) =
          Entries.find? name (bag.put n v) := by
        split
        · rfl
        · next hfree =>
            have hne : positionalName position ≠ name := fun heq => hfree (heq ▸ h)
            rw [Entries.find?_put, if_neg hne]
      show Entries.find? name (addArguments all (position + 1) arguments _) = _
      rw [ih, hput, Entries.find?_put, List.reverse_cons, Entries.find?_append, Option.or_assoc]
      congr 1
      rw [Entries.find?_cons]
      split <;> rfl

/-- A name that is neither an effective one nor that of a position is left
alone. -/
theorem find?_addArguments_of_fresh {name : String} (hname : name ∉ all)
    (hall : ∀ argument ∈ arguments, argument.1 ∈ all)
    (hpositions : ∀ i < arguments.length, positionalName (position + i) ≠ name) :
    Entries.find? name (addArguments all position arguments bag) = Entries.find? name bag := by
  induction arguments generalizing position bag with
  | nil => rfl
  | cons argument arguments ih =>
      obtain ⟨n, v⟩ := argument
      have hn : n ≠ name := fun heq => hname (heq ▸ hall (n, v) (by simp))
      have hposition : positionalName position ≠ name := hpositions 0 (by simp)
      have hrest : ∀ i < arguments.length, positionalName (position + 1 + i) ≠ name := by
        intro i hi
        rw [Nat.add_assoc, Nat.add_comm 1 i]
        exact hpositions (i + 1) (by simpa using hi)
      show Entries.find? name (addArguments all (position + 1) arguments _) = _
      rw [ih (fun argument hmem => hall argument (by simp [hmem])) hrest]
      split
      · rw [Entries.find?_put, if_neg hn]
      · rw [Entries.find?_put, if_neg hposition, Entries.find?_put, if_neg hn]

/-- A positional name that is no effective one stands for the argument at its
position. -/
theorem find?_addArguments_positional {i : Nat} {argument : String × Value}
    (hfree : positionalName (position + i) ∉ all)
    (hall : ∀ argument ∈ arguments, argument.1 ∈ all) (h : arguments[i]? = some argument) :
    Entries.find? (positionalName (position + i)) (addArguments all position arguments bag) =
      some argument.2 := by
  induction arguments generalizing position i bag with
  | nil => cases h
  | cons first arguments ih =>
      obtain ⟨n, v⟩ := first
      have hrest : ∀ argument ∈ arguments, argument.1 ∈ all :=
        fun argument hmem => hall argument (by simp [hmem])
      show Entries.find? _ (addArguments all (position + 1) arguments _) = _
      cases i with
      | zero =>
          obtain rfl := Option.some.inj h
          rw [Nat.add_zero] at hfree ⊢
          have hlater : ∀ j < arguments.length,
              positionalName (position + 1 + j) ≠ positionalName position := by
            intro j _ heq
            have := positionalName_inj heq
            omega
          rw [find?_addArguments_of_fresh hfree hrest hlater, if_neg hfree, Entries.find?_put,
            if_pos rfl]
      | succ i =>
          rw [show position + (i + 1) = position + 1 + i by omega] at hfree ⊢
          exact ih hfree hrest h

/-- In the bag of a call a positional name that is no effective one stands for
the argument at its position. -/
theorem find?_of_positional {names : List String} {arguments : List Value} {i : Nat}
    {value : Value} (hlength : arguments.length = names.length)
    (hfree : positionalName (i + 1) ∉ names) (hvalue : arguments[i]? = some value) :
    Entries.find? (positionalName (i + 1)) (addArguments names 1 (names.zip arguments) []) =
      some value := by
  obtain ⟨hlt, -⟩ := List.getElem?_eq_some_iff.mp hvalue
  have hpair : (names.zip arguments)[i]? = some (names[i], value) :=
    List.getElem?_zip_eq_some.mpr ⟨List.getElem?_eq_getElem (hlength ▸ hlt), hvalue⟩
  rw [Nat.add_comm i 1] at hfree ⊢
  exact find?_addArguments_positional hfree (fun _ hmem => (List.of_mem_zip hmem).1) hpair

/-- The bag of a call holds what its names denote, if no two parameters have
one name. -/
theorem find?_of_denotes {names : List String} {arguments : List Value} {name : String}
    {value : Value} (hnodup : names.Nodup) (hlength : arguments.length = names.length)
    (h : Denotes names arguments name value) :
    Entries.find? name (addArguments names 1 (names.zip arguments) []) = some value := by
  cases h with
  | @effective i _ _ hname hvalue =>
      have hmem : (name, value) ∈ (names.zip arguments).reverse := by
        rw [List.mem_reverse]
        exact List.mem_of_getElem? (List.getElem?_zip_eq_some.mpr ⟨hname, hvalue⟩)
      have hreverse : (Entries.keys (names.zip arguments).reverse).Nodup := by
        rw [Entries.keys, List.map_reverse, List.nodup_reverse, List.map_fst_zip (by omega)]
        exact hnodup
      rw [find?_addArguments_of_mem (List.mem_of_getElem? hname),
        Entries.find?_of_mem hreverse hmem]
      rfl
  | positional hfree hvalue => exact find?_of_positional hlength hfree hvalue

end Bag

/-- If no two parameters have one name, a name denotes one argument. -/
theorem Denotes.unique {names : List String} {arguments : List Value} {name : String}
    {value value' : Value} (hnodup : names.Nodup) (hlength : arguments.length = names.length)
    (h : Denotes names arguments name value) (h' : Denotes names arguments name value') :
    value = value' := by
  have hfound := Bag.find?_of_denotes hnodup hlength h
  rw [Bag.find?_of_denotes hnodup hlength h'] at hfound
  exact (Option.some.inj hfound).symm

namespace MethodDeclaration

theorem length_namesFrom (start : Nat) (parameters : List MethodParameter) :
    (namesFrom start parameters).length = parameters.length := by
  induction parameters generalizing start with
  | nil => rfl
  | cons p ps ih => simp [namesFrom, ih]

theorem length_parameterNames (method : MethodDeclaration) :
    method.parameterNames.length = method.parameters.length :=
  length_namesFrom 0 method.parameters

/-- A call with the right number of arguments, at least two, passes a bag. -/
theorem parameter_of_several {method : MethodDeclaration}
    {arguments : List Value} (hlength : arguments.length = method.parameterNames.length)
    (hseveral : 2 ≤ arguments.length) :
    method.parameter arguments =
      .ok (.params (Bag.addArguments method.parameterNames 1
        (method.parameterNames.zip arguments) [])) := by
  obtain ⟨first, second, rest, rfl⟩ : ∃ first second rest,
      arguments = first :: second :: rest := by
    match arguments, hseveral with
    | first :: second :: rest, _ => exact ⟨first, second, rest, rfl⟩
  have hcount : ¬ (first :: second :: rest).length ≠ method.parameterNames.length :=
    not_not.mpr hlength
  unfold parameter
  rw [if_neg hcount]

end MethodDeclaration

end SqlMapper
