import SqlMapper.Proofs.Property.Members
import SqlMapper.Proofs.Text.LetterCase
import SqlMapper.Proofs.Text.Segments
import SqlMapper.Property.Metadata

/-!
# Finding a property by its name in any case

One index serves two questions: which property has a name in upper case, and
which has it when underscores do not count. A name is entered as it is, whatever
its key held before, and without underscores only where the key is still free.
So a key stands for the last name with that upper case. Only if there is none does
it stand for a name that gives the key when its underscores are dropped, and then
for the first one.

## Main definitions

* `Descriptor.exposed` — the properties that can be read or written.

## Main results

* `find?_enterName` — what one name changes in the index.
* `find?_nameIndex` — what every key stands for.
* `find?_nameIndex_upper`, `find?_nameIndex_bare` — the two questions.
* `mem_of_find?_nameIndex` — the index holds no other names.
* `Descriptor.upper_eq_iff_of_findName` — when a name stands for one that is the same
  in another case.
* `Descriptor.finds_exposed` — every exposed property is found by its name in any
  case, unless another one has that name.
-/

namespace SqlMapper

/-- The properties that can be read, and then those that can be written. -/
def Descriptor.exposed (d : Descriptor) : List String := d.getters.keys ++ d.setters.keys

/-! ## Underscores -/

/-- Underscores can be dropped before or after the letters change their case. -/
theorem upper_dropUnderscores (s : String) :
    Text.upper (dropUnderscores s) = dropUnderscores (Text.upper s) := by
  have hchar (c : Char) : (Text.upperChar c).filter (· ≠ '_') =
      if c ≠ '_' then Text.upperChar c else [] := by
    split
    · next hne =>
        rw [List.filter_eq_self]
        intro d hd
        refine decide_eq_true ?_
        rintro rfl
        exact hne ((Text.mem_upperChar_iff (by decide)).mp hd).symm
    · next heq =>
        obtain rfl := not_not.mp heq
        rfl
  have hchars (cs : List Char) : (cs.filter (· ≠ '_')).flatMap Text.upperChar =
      (cs.flatMap Text.upperChar).filter (· ≠ '_') := by
    induction cs with
    | nil => rfl
    | cons c cs ih =>
        rw [List.flatMap_cons, List.filter_append, hchar, ← ih]
        by_cases hc : c = '_' <;> simp [hc]
  unfold Text.upper dropUnderscores
  rw [String.toList_ofList, String.toList_ofList, hchars]

theorem dropUnderscores_dropUnderscores (s : String) :
    dropUnderscores (dropUnderscores s) = dropUnderscores s := by
  unfold dropUnderscores
  rw [String.toList_ofList, List.filter_filter]
  simp

/-! ## Entering names -/

section Index

variable {index : Entries String} {names : List String} {name other key found : String}

/-- A name takes its own key, and the one without underscores if it is free. -/
theorem find?_enterName : (enterName index name).find? key =
    if Text.upper name = key then some name
    else (index.find? key).or
      (if dropUnderscores (Text.upper name) = key then some name else none) := by
  unfold enterName
  rw [Entries.find?_put]
  split
  · rfl
  · next hkey =>
      split
      · next hbare => rw [hbare, if_neg hkey, Option.or_none]
      · rw [Entries.find?_fill]

/-- A key stands for the last name that has it as its upper case. If there is none, it
stands for the first name that gives it when its underscores are dropped. -/
theorem find?_nameIndex : (nameIndex names).find? key =
    (names.reverse.find? (Text.upper · = key)).or
      (names.find? fun name => dropUnderscores (Text.upper name) = key) := by
  induction names using List.reverseRecOn with
  | nil => rfl
  | append_singleton names name ih =>
      unfold nameIndex at ih ⊢
      rw [List.foldl_concat, find?_enterName, ih, List.reverse_concat, List.find?_cons,
        List.find?_append, ← Option.or_assoc]
      by_cases hkey : Text.upper name = key <;>
        by_cases hbare : dropUnderscores (Text.upper name) = key <;> simp [hkey, hbare]

/-- The index holds no other names. -/
theorem mem_of_find?_nameIndex (h : (nameIndex names).find? key = some found) :
    found ∈ names := by
  rw [find?_nameIndex] at h
  rcases Option.or_eq_some_iff.mp h with hupper | ⟨-, hbare⟩
  · exact List.mem_reverse.mp (List.mem_of_find?_eq_some hupper)
  · exact List.mem_of_find?_eq_some hbare

theorem find?_eq_some_of_unique {p : String → Bool} (hmem : name ∈ names) (hname : p name = true)
    (hunique : ∀ other ∈ names, p other = true → other = name) : names.find? p = some name := by
  rcases hfound : names.find? p with _ | other
  · exact absurd hname (List.find?_eq_none.mp hfound name hmem)
  · rw [hunique other (List.mem_of_find?_eq_some hfound) (List.find?_some hfound)]

/-- A listed name is found under its upper case, unless another one has it. -/
theorem find?_nameIndex_upper (hmem : name ∈ names)
    (hunique : ∀ other ∈ names, Text.upper other = Text.upper name → other = name) :
    (nameIndex names).find? (Text.upper name) = some name := by
  have hlast : names.reverse.find? (Text.upper · = Text.upper name) = some name :=
    find?_eq_some_of_unique (List.mem_reverse.mpr hmem) (decide_eq_true rfl)
      fun other hother heq => hunique other (List.mem_reverse.mp hother) (of_decide_eq_true heq)
  rw [find?_nameIndex, hlast, Option.some_or]

/-- A listed name is found under its upper case without underscores, unless
another one has it. -/
theorem find?_nameIndex_bare (hmem : name ∈ names)
    (hunique : ∀ other ∈ names,
      dropUnderscores (Text.upper other) = dropUnderscores (Text.upper name) → other = name) :
    (nameIndex names).find? (dropUnderscores (Text.upper name)) = some name := by
  rw [find?_nameIndex]
  rcases hlast : names.reverse.find? (Text.upper · = dropUnderscores (Text.upper name))
    with _ | other
  · rw [Option.none_or]
    exact find?_eq_some_of_unique hmem (decide_eq_true rfl)
      fun other hother heq => hunique other hother (of_decide_eq_true heq)
  · have hupper : Text.upper other = dropUnderscores (Text.upper name) := by
      simpa using List.find?_some hlast
    have hother : other ∈ names := List.mem_reverse.mp (List.mem_of_find?_eq_some hlast)
    rw [Option.some_or, hunique other hother (by rw [hupper, dropUnderscores_dropUnderscores])]

end Index

/-! ## Names as paths -/

/-- A text without dots and brackets is one segment. -/
theorem Path.ofString_of_not_mem {name : String} (hdot : '.' ∉ name.toList)
    (hbracket : '[' ∉ name.toList) :
    Path.ofString name = { head := { text := name, name, index := none }, rest := [] } := by
  unfold Path.ofString Segment.ofChars
  rw [Text.splitAt_of_not_mem hdot]
  dsimp only [List.map]
  rw [Text.cutFirst_of_not_mem hbracket, String.ofList_toList]

namespace Descriptor

variable {family : Family} {type : TypeName} {shape : Shape} {d : Descriptor}
  {property name : String}

theorem index_eq (h : family.resolve type shape = .ok d) : d.index = nameIndex d.exposed := by
  obtain ⟨ofMethods, -, h⟩ := exists_of_bind_ok h
  obtain ⟨setters, -, h⟩ := exists_of_bind_ok h
  obtain rfl := Except.ok.inj h
  rfl

/-! ## What one name stands for -/

theorem mem_exposed_of_findName (hd : family.resolve type shape = .ok d)
    (h : d.findName name = some property) : property ∈ d.exposed := by
  unfold findName at h
  rw [index_eq hd] at h
  exact mem_of_find?_nameIndex h

/-- A name stands for one that is the same if neither its case nor its underscores
count. -/
theorem bare_eq_of_findName (hd : family.resolve type shape = .ok d)
    (h : d.findName name = some property) :
    Text.upper (dropUnderscores property) = Text.upper (dropUnderscores name) := by
  unfold findName at h
  rw [index_eq hd, find?_nameIndex] at h
  rw [upper_dropUnderscores, upper_dropUnderscores]
  rcases Option.or_eq_some_iff.mp h with hupper | ⟨-, hbare⟩
  · have heq : Text.upper property = Text.upper name := by simpa using List.find?_some hupper
    rw [heq]
  · have heq : dropUnderscores (Text.upper property) = Text.upper name := by
      simpa using List.find?_some hbare
    rw [← heq, dropUnderscores_dropUnderscores]

/-- A name stands for one that is the same in another case exactly if there is such
an exposed name. -/
theorem upper_eq_iff_of_findName (hd : family.resolve type shape = .ok d)
    (h : d.findName name = some property) :
    Text.upper property = Text.upper name ↔
      ∃ other ∈ d.exposed, Text.upper other = Text.upper name := by
  constructor
  · exact fun heq => ⟨property, mem_exposed_of_findName hd h, heq⟩
  · rintro ⟨other, hother, heq⟩
    unfold findName at h
    rw [index_eq hd, find?_nameIndex] at h
    rcases Option.or_eq_some_iff.mp h with hupper | ⟨hnone, -⟩
    · simpa using List.find?_some hupper
    · have hdiffer := List.find?_eq_none.mp hnone other (List.mem_reverse.mpr hother)
      exact absurd (decide_eq_true heq) hdiffer

/-! ## What is found -/

/-- A name of one segment is found as a path where it is found as a name. -/
theorem findPath_of_findName {describe : Describe} {bare : Bool}
    (hdot : '.' ∉ name.toList) (hbracket : '[' ∉ name.toList) (hne : property ≠ "")
    (h : d.findName (if bare then dropUnderscores name else name) = some property) :
    d.findPath describe name bare = some property := by
  have hkept {c : Char} (hc : c ∉ name.toList) :
      c ∉ (if bare then dropUnderscores name else name).toList := by
    split
    · unfold dropUnderscores
      rw [String.toList_ofList]
      exact fun hmem => hc (List.mem_of_mem_filter hmem)
    · exact hc
  unfold findPath
  rw [Path.ofString_of_not_mem (hkept hdot) (hkept hbracket)]
  simp [findSegments, h, String.isEmpty_iff, hne]

/-- Every exposed property is found by its name in any case, unless another one
has that name; and the same if underscores do not count. -/
theorem finds_exposed (h : family.resolve type shape = .ok d) (describe : Describe)
    (hexposed : property ∈ d.exposed) (hne : property ≠ "") (hdot : '.' ∉ property.toList)
    (hbracket : '[' ∉ property.toList) :
    ((∀ other ∈ d.exposed, other ≠ property → Text.upper other ≠ Text.upper property) →
      ∀ name, Text.upper name = Text.upper property →
        d.findName name = some property ∧ d.findPath describe name false = some property) ∧
    ((∀ other ∈ d.exposed, other ≠ property →
        Text.upper (dropUnderscores other) ≠ Text.upper (dropUnderscores property)) →
      ∀ name, '.' ∉ name.toList → '[' ∉ name.toList →
        Text.upper (dropUnderscores name) = Text.upper (dropUnderscores property) →
        d.findPath describe name true = some property) := by
  have hindex := index_eq h
  constructor
  · intro hunique name hname
    have hfound : d.findName name = some property := by
      unfold findName
      rw [hindex, hname]
      exact find?_nameIndex_upper hexposed fun other hother heq =>
        not_imp_not.mp (hunique other hother) heq
    have hseparator {c : Char} (hsep : c ∈ Text.separators) (hc : c ∉ property.toList) :
        c ∉ name.toList := by
      rw [← Text.mem_upper_iff hsep] at hc ⊢
      rwa [hname]
    exact ⟨hfound, findPath_of_findName (hseparator (by decide) hdot)
      (hseparator (by decide) hbracket) hne hfound⟩
  · intro hunique name hnameDot hnameBracket hname
    refine findPath_of_findName hnameDot hnameBracket hne ?_
    unfold findName
    rw [if_pos rfl, hindex, hname, upper_dropUnderscores]
    refine find?_nameIndex_bare hexposed fun other hother heq => ?_
    rw [← upper_dropUnderscores, ← upper_dropUnderscores] at heq
    exact not_imp_not.mp (hunique other hother) heq

/-- Accounts, with two names that differ in an underscore only. -/
def accounts : Shape where
  fields := ["owner_name", "ownerName", "zip_code", "straße"].map fun name =>
    { name, type := .string, reader := .slot "Account" name, writer := none }

/-- The name `ownerName` is found in any case, although `owner_name` came first
and is the same without underscores; so is `straße`, whose upper case is longer;
and `zip_code` is found without its underscore. -/
theorem finds_exposed_accounts :
    ∃ d, Family.resolve {} "Account" accounts = .ok d ∧
      d.findName "OWNERNAME" = some "ownerName" ∧ d.findName "STRASSE" = some "straße" ∧
      d.findPath (Family.describe {}) "ZipCode" true = some "zip_code" := by
  have hnames : (Family.resolve {} "Account" accounts).toOption.map exposed =
      some ["owner_name", "ownerName", "zip_code", "straße"] := by
    decide +kernel
  rcases hrun : Family.resolve {} "Account" accounts with fault | d <;> rw [hrun] at hnames
  · cases hnames
  · have hexposed : d.exposed = ["owner_name", "ownerName", "zip_code", "straße"] :=
      Option.some.inj hnames
    have hlisted (name : String)
        (h : name ∈ ["owner_name", "ownerName", "zip_code", "straße"]) : name ∈ d.exposed := by
      rwa [hexposed]
    have howner := finds_exposed hrun (Family.describe {}) (hlisted "ownerName" (by decide))
      (by decide) (by decide) (by decide)
    have hstreet := finds_exposed hrun (Family.describe {}) (hlisted "straße" (by decide))
      (by decide) (by decide) (by decide)
    have hzip := finds_exposed hrun (Family.describe {}) (hlisted "zip_code" (by decide))
      (by decide) (by decide) (by decide)
    rw [hexposed] at howner hstreet hzip
    exact ⟨d, rfl, (howner.1 (by decide +kernel) _ (by decide +kernel)).1,
      (hstreet.1 (by decide +kernel) _ (by decide +kernel)).1,
      hzip.2 (by decide +kernel) _ (by decide) (by decide) (by decide +kernel)⟩

end Descriptor

end SqlMapper
