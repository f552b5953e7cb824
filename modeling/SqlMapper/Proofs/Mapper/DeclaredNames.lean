import SqlMapper.Proofs.Mapper.Bags

/-!
# Declared and generated names in the bag of a call

Several arguments become a bag under names of three kinds: the names that
parameters are declared with, the names `arg0`, `arg1`, … of those that are
not, and the positional names `param1`, `param2`, …. The last two are
generated, and a declared name may look like one of them.

A positional name gives way to a declared one wherever the two meet. The name
of an unnamed parameter does not: it is put in its turn, so it is written over
by a declared name behind it, and it writes over a declared name before it.
These are the only declared names that do not hold their own argument.

## Main definitions

* `MethodDeclaration.Overwrites` — an unnamed parameter takes the name that an
  earlier one is declared with.
* `MethodDeclaration.Fills` — what stands in the bag under which name.
* `MethodDeclaration.KeepsDeclared` — every declared name holds the argument
  of its parameter.

## Main results

* `Bag.find?_of_last` — an effective name holds the argument of the last
  parameter of that name.
* `MethodDeclaration.parameter_keeps_declared_iff` — what a call with several
  arguments passes, and when no declared name is lost.
-/

namespace SqlMapper

/-! ## Generated names -/

/-- The name of a parameter that is declared without one, by its position
counted from zero. -/
def unnamedName (position : Nat) : String := "arg" ++ Text.decimal position

theorem unnamedName_inj {i j : Nat} (h : unnamedName i = unnamedName j) : i = j :=
  Text.decimal_inj (String.append_right_inj _ |>.mp h)

theorem positionalName_ne_unnamedName (i j : Nat) : positionalName i ≠ unnamedName j := by
  intro h
  have hfirst := congrArg (fun name => name.toList.head?) h
  simp [positionalName, unnamedName] at hfirst

namespace MethodDeclaration

variable {method : MethodDeclaration} {arguments : List Value} {bag : Bag} {name : String}
  {i j : Nat} {value : Value}

/-! ## Parameters -/

/-- The parameter at the position is declared with the name. -/
def DeclaredAs (method : MethodDeclaration) (i : Nat) (name : String) : Prop :=
  (method.parameters[i]?).map MethodParameter.name = some (some name)

/-- The parameter at the position is declared without a name. -/
def Unnamed (method : MethodDeclaration) (i : Nat) : Prop :=
  (method.parameters[i]?).map MethodParameter.name = some none

instance (method : MethodDeclaration) (i : Nat) (name : String) :
    Decidable (method.DeclaredAs i name) := inferInstanceAs (Decidable (_ = _))

instance (method : MethodDeclaration) (i : Nat) : Decidable (method.Unnamed i) :=
  inferInstanceAs (Decidable (_ = _))

/-- The names that parameters are declared with. -/
def declaredNames (method : MethodDeclaration) : List String :=
  method.parameters.filterMap MethodParameter.name

theorem mem_declaredNames_iff : name ∈ method.declaredNames ↔ ∃ i, method.DeclaredAs i name := by
  unfold declaredNames DeclaredAs
  rw [List.mem_filterMap]
  simp only [List.mem_iff_getElem?, Option.map_eq_some_iff]
  constructor
  · rintro ⟨p, ⟨i, hp⟩, hname⟩
    exact ⟨i, p, hp, hname⟩
  · rintro ⟨i, p, hp, hname⟩
    exact ⟨p, ⟨i, hp⟩, hname⟩

/-- No two parameters are declared with one name. -/
theorem DeclaredAs.unique (hdistinct : method.declaredNames.Nodup) (hi : method.DeclaredAs i name)
    (hj : method.DeclaredAs j name) : i = j := by
  have hpairs := List.pairwise_filterMap.mp hdistinct
  rw [List.pairwise_iff_getElem] at hpairs
  obtain ⟨p, hp, hpname⟩ := Option.map_eq_some_iff.mp hi
  obtain ⟨q, hq, hqname⟩ := Option.map_eq_some_iff.mp hj
  obtain ⟨hilt, rfl⟩ := List.getElem?_eq_some_iff.mp hp
  obtain ⟨hjlt, rfl⟩ := List.getElem?_eq_some_iff.mp hq
  rcases Nat.lt_trichotomy i j with hlt | heq | hgt
  · exact absurd rfl (hpairs i j hilt hjlt hlt name hpname name hqname)
  · exact heq
  · exact absurd rfl (hpairs j i hjlt hilt hgt name hqname name hpname)

/-! ## Effective names -/

theorem getElem?_namesFrom (start : Nat) (parameters : List MethodParameter) (i : Nat) :
    (namesFrom start parameters)[i]? =
      parameters[i]?.map fun p => p.name.getD (unnamedName (start + i)) := by
  induction parameters generalizing start i with
  | nil => rfl
  | cons p ps ih =>
      cases i with
      | zero => rfl
      | succ i =>
          rw [namesFrom, List.getElem?_cons_succ, List.getElem?_cons_succ, ih,
            Nat.add_right_comm start 1 i]
          rfl

/-- The effective name of a parameter is the declared one, or else the name of
its position. -/
theorem parameterNames_eq_some_iff : method.parameterNames[i]? = some name ↔
    method.DeclaredAs i name ∨ method.Unnamed i ∧ name = unnamedName i := by
  unfold parameterNames DeclaredAs Unnamed
  rw [getElem?_namesFrom, Nat.zero_add]
  rcases method.parameters[i]? with _ | ⟨_ | declared, type⟩
  · simp
  · simp [eq_comm]
  · simp

theorem mem_parameterNames_iff : name ∈ method.parameterNames ↔
    name ∈ method.declaredNames ∨ ∃ i, method.Unnamed i ∧ name = unnamedName i := by
  rw [List.mem_iff_getElem?, mem_declaredNames_iff, ← exists_or]
  exact exists_congr fun i => parameterNames_eq_some_iff

/-- A positional name that is an effective one is declared. -/
theorem positionalName_mem_parameterNames_iff : positionalName i ∈ method.parameterNames ↔
    positionalName i ∈ method.declaredNames := by
  rw [mem_parameterNames_iff]
  refine or_iff_left ?_
  rintro ⟨j, -, hname⟩
  exact positionalName_ne_unnamedName i j hname

/-! ## The bag -/

variable (method) in
/-- An unnamed parameter behind the one at the position is known by the name
that this one is declared with. -/
structure Overwrites (later earlier : Nat) : Prop where
  before : earlier < later
  unnamed : method.Unnamed later
  declared : method.DeclaredAs earlier (unnamedName later)

/-- Behind a declared parameter that is not overwritten, none has its name. -/
theorem last_declaredAs (hdistinct : method.declaredNames.Nodup) (hi : method.DeclaredAs i name)
    (hkept : ∀ j, ¬ method.Overwrites j i) (hj : i < j) :
    method.parameterNames[j]? ≠ some name := by
  intro hname
  rcases parameterNames_eq_some_iff.mp hname with hdeclared | ⟨hunnamed, rfl⟩
  · have := hi.unique hdistinct hdeclared
    omega
  · exact hkept j ⟨hj, hunnamed, hi⟩

/-- Behind an unnamed parameter, none has its name unless it is declared with
it. -/
theorem last_unnamed (hafter : ∀ j, i < j → ¬ method.DeclaredAs j (unnamedName i)) (hj : i < j) :
    method.parameterNames[j]? ≠ some (unnamedName i) := by
  intro hname
  rcases parameterNames_eq_some_iff.mp hname with hdeclared | ⟨-, heq⟩
  · exact hafter j hj hdeclared
  · have := unnamedName_inj heq
    omega

end MethodDeclaration

namespace Bag

variable {names : List String} {arguments : List Value} {name : String}

/-- An effective name holds the argument of the last parameter of that name. -/
theorem find?_of_last {i : Nat} {value : Value} (hname : names[i]? = some name)
    (hvalue : arguments[i]? = some value) (hlast : ∀ j, i < j → names[j]? ≠ some name) :
    Entries.find? name (addArguments names 1 (names.zip arguments) []) = some value := by
  have hpair : (names.zip arguments)[i]? = some (name, value) :=
    List.getElem?_zip_eq_some.mpr ⟨hname, hvalue⟩
  obtain ⟨hlt, hget⟩ := List.getElem?_eq_some_iff.mp hpair
  have hsplit : names.zip arguments = (names.zip arguments).take i ++
      (name, value) :: (names.zip arguments).drop (i + 1) := by
    rw [← hget, List.getElem_cons_drop, List.take_append_drop]
  have hlater : Entries.find? name ((names.zip arguments).drop (i + 1)).reverse = none := by
    rw [← Option.not_isSome_iff_eq_none, Entries.find?_isSome_iff, Entries.keys,
      List.map_reverse, List.mem_reverse, List.mem_map]
    rintro ⟨⟨_, later⟩, hmem, rfl⟩
    obtain ⟨k, hk⟩ := List.mem_iff_getElem?.mp hmem
    rw [List.getElem?_drop] at hk
    exact hlast (i + 1 + k) (by omega) (List.getElem?_zip_eq_some.mp hk).1
  rw [find?_addArguments_of_mem (List.mem_of_getElem? hname), hsplit, List.reverse_append,
    List.reverse_cons, Entries.find?_append, Entries.find?_append, hlater]
  simp [Entries.find?_cons]

/-- A bag holds the effective names and the positional ones. -/
theorem mem_keys_addArguments_iff (hlength : arguments.length = names.length) :
    name ∈ Entries.keys (addArguments names 1 (names.zip arguments) []) ↔
      name ∈ names ∨ ∃ i < names.length, name = positionalName (i + 1) := by
  have hkeys : Entries.keys (names.zip arguments) = names := List.map_fst_zip (by omega)
  rw [← Entries.find?_isSome_iff]
  by_cases hname : name ∈ names
  · rw [find?_addArguments_of_mem hname, Entries.find?_nil, Option.or_none,
      Entries.find?_isSome_iff, Entries.keys, List.map_reverse, List.mem_reverse,
      ← Entries.keys, hkeys]
    exact ⟨.inl, fun _ => hname⟩
  · rw [or_iff_right hname]
    constructor
    · intro hfound
      by_contra hnone
      push Not at hnone
      rw [find?_addArguments_of_fresh hname fun _ hmem => (List.of_mem_zip hmem).1] at hfound
      · cases hfound
      · intro i hi heq
        rw [List.length_zip, hlength, Nat.min_self] at hi
        exact hnone i hi (by rw [← heq, Nat.add_comm])
    · rintro ⟨i, hi, rfl⟩
      rw [find?_of_positional hlength hname (List.getElem?_eq_getElem (hlength ▸ hi))]
      rfl

/-- A bag repeats no name. -/
theorem nodup_keys_addArguments {position : Nat} {entries : List (String × Value)} {bag : Bag}
    (h : (Entries.keys bag).Nodup) :
    (Entries.keys (addArguments names position entries bag)).Nodup := by
  induction entries generalizing position bag with
  | nil => exact h
  | cons entry entries ih =>
      obtain ⟨n, v⟩ := entry
      refine ih ?_
      split
      · exact Entries.nodup_keys_put h
      · exact Entries.nodup_keys_put (Entries.nodup_keys_put h)

end Bag

namespace MethodDeclaration

variable {method : MethodDeclaration} {arguments : List Value} {bag : Bag}

/-- What stands in the bag of a call under which name. -/
structure Fills (method : MethodDeclaration) (arguments : List Value) (bag : Bag) : Prop where
  /-- A declared name that is not overwritten holds the argument of its parameter. -/
  declared : ∀ i name value, method.DeclaredAs i name → (∀ j, ¬ method.Overwrites j i) →
    arguments[i]? = some value → bag.find? name = some value
  /-- An overwritten name holds the argument of the unnamed parameter. -/
  overwritten : ∀ i j value, method.Overwrites j i → arguments[j]? = some value →
    bag.find? (unnamedName j) = some value
  /-- The name of an unnamed parameter holds its argument unless it is declared. -/
  unnamed : ∀ i value, method.Unnamed i → unnamedName i ∉ method.declaredNames →
    arguments[i]? = some value → bag.find? (unnamedName i) = some value
  /-- A positional name holds the argument at its position unless it is declared. -/
  positional : ∀ i value, positionalName (i + 1) ∉ method.declaredNames →
    arguments[i]? = some value → bag.find? (positionalName (i + 1)) = some value
  /-- There are no other names. -/
  names : ∀ name, name ∈ bag.keys ↔ name ∈ method.declaredNames ∨
    (∃ i, method.Unnamed i ∧ name = unnamedName i) ∨
    ∃ i < method.parameters.length, name = positionalName (i + 1)
  distinct : bag.keys.Nodup

/-- Every declared name holds the argument of its own parameter. -/
def KeepsDeclared (method : MethodDeclaration) (arguments : List Value) (bag : Bag) : Prop :=
  ∀ i name value, method.DeclaredAs i name → arguments[i]? = some value →
    bag.find? name = some value

theorem fills_addArguments (hdistinct : method.declaredNames.Nodup)
    (hlength : arguments.length = method.parameters.length) :
    method.Fills arguments (Bag.addArguments method.parameterNames 1
      (method.parameterNames.zip arguments) []) := by
  have hnames : arguments.length = method.parameterNames.length :=
    hlength.trans method.length_parameterNames.symm
  constructor
  case declared =>
    intro i name value hdeclared hkept hvalue
    exact Bag.find?_of_last (parameterNames_eq_some_iff.mpr (.inl hdeclared)) hvalue
      fun j => last_declaredAs hdistinct hdeclared hkept
  case overwritten =>
    intro i j value hoverwrites hvalue
    have hname : method.parameterNames[j]? = some (unnamedName j) :=
      parameterNames_eq_some_iff.mpr (.inr ⟨hoverwrites.unnamed, rfl⟩)
    refine Bag.find?_of_last hname hvalue fun k => last_unnamed fun l hl hdeclared => ?_
    have := hoverwrites.declared.unique hdistinct hdeclared
    have := hoverwrites.before
    omega
  case unnamed =>
    intro i value hunnamed hfree hvalue
    have hname : method.parameterNames[i]? = some (unnamedName i) :=
      parameterNames_eq_some_iff.mpr (.inr ⟨hunnamed, rfl⟩)
    refine Bag.find?_of_last hname hvalue fun k => last_unnamed fun l _ hdeclared => ?_
    exact hfree (mem_declaredNames_iff.mpr ⟨l, hdeclared⟩)
  case positional =>
    intro i value hfree hvalue
    rw [← positionalName_mem_parameterNames_iff] at hfree
    exact Bag.find?_of_positional hnames hfree hvalue
  case names =>
    intro name
    rw [Bag.mem_keys_addArguments_iff hnames, mem_parameterNames_iff, or_assoc,
      method.length_parameterNames]
  case distinct => exact Bag.nodup_keys_addArguments List.nodup_nil

/-- No declared name is lost exactly if every unnamed parameter that overwrites
one is given the same argument. -/
theorem Fills.keepsDeclared_iff (hfills : method.Fills arguments bag)
    (hlength : arguments.length = method.parameters.length) :
    method.KeepsDeclared arguments bag ↔
      ∀ i j, method.Overwrites j i → arguments[i]? = arguments[j]? := by
  constructor
  · intro hkeeps i j hoverwrites
    obtain ⟨p, hp, -⟩ := Option.map_eq_some_iff.mp hoverwrites.unnamed
    obtain ⟨hj, -⟩ := List.getElem?_eq_some_iff.mp hp
    rw [← hlength] at hj
    have hi : i < arguments.length := Nat.lt_trans hoverwrites.before hj
    have hown := hkeeps i _ _ hoverwrites.declared (List.getElem?_eq_getElem hi)
    have hother := hfills.overwritten i j _ hoverwrites (List.getElem?_eq_getElem hj)
    rw [List.getElem?_eq_getElem hi, List.getElem?_eq_getElem hj, ← hown, hother]
  · intro hsame i name value hdeclared hvalue
    by_cases hkept : ∀ j, ¬ method.Overwrites j i
    · exact hfills.declared i name value hdeclared hkept hvalue
    · push Not at hkept
      obtain ⟨j, hoverwrites⟩ := hkept
      obtain rfl : name = unnamedName j := by
        have hnames := hdeclared.symm.trans hoverwrites.declared
        exact Option.some.inj (Option.some.inj hnames)
      exact hfills.overwritten i j value hoverwrites (hsame i j hoverwrites ▸ hvalue)

/-- Several arguments are passed under their names, each name once, and no
declared name is lost exactly if every unnamed parameter that overwrites one is
given the same argument. Any other number of arguments is refused. -/
theorem parameter_keeps_declared_iff (hseveral : 2 ≤ method.parameters.length)
    (hdistinct : method.declaredNames.Nodup) (arguments : List Value) :
    (arguments.length = method.parameters.length → ∃ bag,
      method.parameter arguments = .ok (.params bag) ∧ method.Fills arguments bag ∧
      (method.KeepsDeclared arguments bag ↔
        ∀ i j, method.Overwrites j i → arguments[i]? = arguments[j]?)) ∧
    (arguments.length ≠ method.parameters.length → method.parameter arguments =
      .error (.binding (.argumentCount method.name method.parameters.length
        arguments.length))) := by
  constructor
  · intro hlength
    have hnames := hlength.trans method.length_parameterNames.symm
    have hfills := fills_addArguments hdistinct hlength
    exact ⟨_, parameter_of_several hnames (hlength ▸ hseveral), hfills,
      hfills.keepsDeclared_iff hlength⟩
  · intro hlength
    rw [← method.length_parameterNames] at hlength ⊢
    exact if_pos hlength

/-- A parameter between two whose declared names look generated. -/
def lookalikes : MethodDeclaration where
  name := "find"
  parameters := [.named "param3" .int, ⟨none, .int⟩, .named "arg1" .int]

/-- A declared name behind the unnamed parameter of that name is kept. -/
theorem parameter_keeps_declared_lookalikes :
    2 ≤ lookalikes.parameters.length ∧ lookalikes.declaredNames.Nodup ∧
      ∃ bag, lookalikes.parameter [.int 1, .int 2, .int 3] = .ok (.params bag) ∧
        lookalikes.Fills [.int 1, .int 2, .int 3] bag ∧
        lookalikes.KeepsDeclared [.int 1, .int 2, .int 3] bag := by
  have hseveral : 2 ≤ lookalikes.parameters.length := by decide
  have hdistinct : lookalikes.declaredNames.Nodup := by decide
  obtain ⟨bag, hbag, hfills, hkeeps⟩ :=
    (parameter_keeps_declared_iff hseveral hdistinct [.int 1, .int 2, .int 3]).1 rfl
  refine ⟨hseveral, hdistinct, bag, hbag, hfills, hkeeps.mpr ?_⟩
  rintro i j ⟨hbefore, hunnamed, hdeclared⟩
  rcases j with _ | _ | _ | j
  · cases hunnamed
  · obtain rfl : i = 0 := by omega
    exact absurd hdeclared (by decide)
  · cases hunnamed
  · cases hunnamed

/-- An unnamed parameter behind one that is declared with its name. -/
def overwriting : MethodDeclaration where
  name := "odd"
  parameters := [.named "arg1" .int, ⟨none, .int⟩]

/-- A declared name before the unnamed parameter of that name is lost. -/
theorem overwriting_loses_declared :
    2 ≤ overwriting.parameters.length ∧ overwriting.declaredNames.Nodup ∧
      ∃ bag : Bag, overwriting.parameter [.int 1, .int 2] = .ok (.params bag) ∧
        bag.find? "arg1" = some (.int 2) ∧
        ¬ overwriting.KeepsDeclared [.int 1, .int 2] bag := by
  refine ⟨by decide, by decide, [("arg1", .int 2), ("param1", .int 1), ("param2", .int 2)],
    ?_, rfl, ?_⟩
  · rfl
  · intro hkeeps
    have hown : some (Value.int 2) = some (.int 1) := hkeeps 0 "arg1" (.int 1) rfl rfl
    cases hown

end MethodDeclaration

end SqlMapper
