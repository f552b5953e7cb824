import SqlMapper.Proofs.Run
import SqlMapper.Proofs.Text.LetterCase
import SqlMapper.Proofs.Text.Segments
import SqlMapper.Proofs.Text.Trimming
import SqlMapper.TypeAlias

/-!
# Reading the names of types back

A type shows as a text, and a registry reads such texts. The two go different
ways: the text of a list is put together from the text of its element, while the
reader looks for the first angle bracket, trims at each level, and changes the
case of what is left at the end. They meet because no alias ever comes to stand
for another type, whatever is registered after it.

## Main definitions

* `AliasRegistry.Registration`, `AliasRegistry.after` — registrations, and the
  registry after some of them.
* `AliasRegistry.Registers` — one of the registrations added an object type.
* `ValueType.objectNames` — the object types in a type.
* `ValueType.Written` — the texts that write a type: its own text, with letters
  in either case and blanks around each name in it.

## Main results

* `AliasRegistry.find?_after` — an alias stands for the same type ever after.
* `ValueType.written_text` — a type is written by its own text.
* `AliasRegistry.resolve_written` — what writes a type is read as that type.
-/

namespace SqlMapper

/-! ## Registrations -/

namespace AliasRegistry

variable {registry next : AliasRegistry} {name known : String} {type found : ValueType}

/-- Something that is registered. -/
inductive Registration where
  | named (name : String) (type : ValueType)
  /-- An object type under its name. The name is the last part of the path of the
  type, cut before its type arguments, and so has no angle bracket. -/
  | object (name : TypeName) (plain : '<' ∉ name.toList)

/-- Registers it. -/
def Registration.run (registry : AliasRegistry) : Registration → Except Fault AliasRegistry
  | named name type => registry.register name type
  | object name _ => registry.registerType name

/-- The registry after the registrations in turn; one that fails leaves it as it
was. -/
def after (registry : AliasRegistry) (registrations : List Registration) : AliasRegistry :=
  registrations.foldl
    (fun registry registration => (registration.run registry).toOption.getD registry) registry

/-- The object type was registered by one of the registrations, and that one did
not fail. -/
def Registers (registrations : List Registration) (name : TypeName) : Prop :=
  ∃ earlier later plain registry, registrations = earlier ++ .object name plain :: later ∧
    (initial.after earlier).registerType name = .ok registry

theorem after_cons (registry : AliasRegistry) (registration : Registration)
    (registrations : List Registration) :
    registry.after (registration :: registrations) =
      ((registration.run registry).toOption.getD registry).after registrations := rfl

theorem after_append (registry : AliasRegistry) (earlier later : List Registration) :
    registry.after (earlier ++ later) = (registry.after earlier).after later :=
  List.foldl_append

/-- An alias is added, or it was there for the same type. -/
theorem register_eq_ok_iff : registry.register name type = .ok next ↔
    registry.aliases.find? (key name) = some type ∧ next = registry ∨
    registry.aliases.find? (key name) = none ∧
      next = { aliases := registry.aliases.put (key name) type } := by
  unfold register
  rcases hfind : registry.aliases.find? (key name) with _ | existing
  · simp [eq_comm]
  · by_cases heq : existing = type
    · simp [heq, eq_comm]
    · simp [heq]

/-- After its registration an alias stands for its type. -/
theorem find?_register (h : registry.register name type = .ok next) :
    next.aliases.find? (key name) = some type := by
  rcases register_eq_ok_iff.mp h with ⟨hfind, rfl⟩ | ⟨-, rfl⟩
  · exact hfind
  · rw [Entries.find?_put, if_pos rfl]

/-- A registration leaves the aliases that are there. -/
theorem find?_of_register (h : registry.register name type = .ok next)
    (hfound : registry.aliases.find? known = some found) :
    next.aliases.find? known = some found := by
  rcases register_eq_ok_iff.mp h with ⟨-, rfl⟩ | ⟨hnew, rfl⟩
  · exact hfound
  · have hne : key name ≠ known := by
      rintro rfl
      rw [hnew] at hfound
      cases hfound
    rw [Entries.find?_put, if_neg hne, hfound]

theorem Registration.find?_run {registration : Registration}
    (h : registration.run registry = .ok next)
    (hfound : registry.aliases.find? known = some found) :
    next.aliases.find? known = some found := by
  cases registration with
  | named name type => exact find?_of_register h hfound
  | object name plain => exact find?_of_register h hfound

/-- An alias stands for the same type ever after. -/
theorem find?_after (registrations : List Registration)
    (hfound : registry.aliases.find? known = some found) :
    (registry.after registrations).aliases.find? known = some found := by
  induction registrations generalizing registry with
  | nil => exact hfound
  | cons registration registrations ih =>
      rw [after_cons]
      rcases hrun : registration.run registry with fault | next
      · exact ih hfound
      · exact ih (Registration.find?_run hrun hfound)

/-- A registered object type is found under its name. -/
theorem Registers.find?_after {registrations : List Registration} {name : TypeName}
    (h : Registers registrations name) :
    (initial.after registrations).aliases.find? (key name) = some (.object name) := by
  obtain ⟨earlier, later, plain, registry, rfl, hregister⟩ := h
  have hrun : (Registration.object name plain).run (initial.after earlier) = .ok registry :=
    hregister
  rw [after_append, after_cons, hrun]
  exact AliasRegistry.find?_after later (find?_register hregister)

end AliasRegistry

/-! ## The texts of types -/

namespace ValueType

open Text

/-- The names of the object types in a type. -/
def objectNames : ValueType → List TypeName
  | list element => element.objectNames
  | object name => [name]
  | _ => []

/-- The text writes the type: it is the text of the type, but for the case of
ASCII letters and the blanks around each name in it. -/
inductive Written : ValueType → List Char → Prop where
  | name {type : ValueType} {front name back : List Char} (hlist : type.isList = false)
      (hname : SameLetters name type.text.toList) (hfront : Blank front) (hback : Blank back) :
      Written type (front ++ name ++ back)
  | list {element : ValueType} {front name middle inner back : List Char}
      (hname : SameLetters name ['L', 'i', 's', 't']) (hinner : Written element inner)
      (hfront : Blank front) (hmiddle : Blank middle) (hback : Blank back) :
      Written (list element) (front ++ (name ++ middle ++ '<' :: inner ++ ['>']) ++ back)

/-- A type is written by its own text. -/
theorem written_text (type : ValueType) : type.Written type.text.toList := by
  have hnone : Blank [] := List.forall_mem_nil _
  induction type with
  | list element ih => simpa [text] using Written.list rfl ih hnone hnone hnone
  | _ => simpa using Written.name rfl rfl hnone hnone

end ValueType

/-! ## Reading types -/

namespace AliasRegistry

open Text ValueType

variable {registry : AliasRegistry} {registrations : List Registration} {type : ValueType}
  {front name middle inner back : List Char}

/-- A text without an angle bracket is no list. -/
theorem listElement?_of_not_mem (h : '<' ∉ name) : listElement? name = none := by
  unfold listElement?
  rw [cutFirst_of_not_mem h]
  rfl

/-- What stands between the angle brackets of a list, which is introduced by its
word in any case. -/
theorem listElement?_list (hname : SameLetters name ['L', 'i', 's', 't']) (hmiddle : Blank middle)
    (inner : List Char) :
    listElement? (name ++ middle ++ '<' :: inner ++ ['>']) = some inner := by
  have hopen : '<' ∉ name ++ middle := by
    rw [List.mem_append, hname.mem_iff (by decide +kernel)]
    rintro (hmem | hmem)
    · exact absurd hmem (by decide)
    · exact absurd (hmiddle _ hmem) (by decide)
  have hcut : cutFirst '<' (name ++ middle ++ '<' :: inner ++ ['>']) =
      some (name ++ middle, inner ++ ['>']) :=
    cutFirst_eq_some_iff.mpr ⟨by simp, hopen⟩
  have htrim : trimChars (name ++ middle) = trimChars name :=
    trimChars_between (List.forall_mem_nil _) name hmiddle
  have hword : (trimChars (name ++ middle)).map Char.toLower = ['l', 'i', 's', 't'] := by
    rw [htrim, hname.trimChars]
    rfl
  have hdrop : dropSuffix? ['>'] (inner ++ ['>']) = some inner := dropSuffix?_eq_some_iff.mpr rfl
  unfold listElement?
  rw [hcut]
  exact (if_pos hword).trans hdrop

/-- Blanks around a list are trimmed away, and nothing of it is. -/
theorem trimChars_list (hname : SameLetters name ['L', 'i', 's', 't']) (rest : List Char)
    (hfront : Blank front) (hback : Blank back) :
    trimChars (front ++ (name ++ rest ++ ['>']) ++ back) = name ++ rest ++ ['>'] := by
  rw [trimChars_between hfront _ hback]
  cases name with
  | nil => cases hname
  | cons c name =>
      have hlower : c.toLower = 'l' := (List.cons.inj hname).1
      have hc : isBlank c = false := by
        rw [← isBlank_toLower, hlower]
        rfl
      exact trimChars_of_ends hc rfl (name ++ rest)

theorem resolveChars_name (hopen : '<' ∉ trimChars name)
    (hfound : registry.aliases.find? (lower (String.ofList (trimChars name))) = some type) :
    registry.resolveChars name = .ok type := by
  rw [resolveChars]
  split
  · next inner hinner =>
      rw [listElement?_of_not_mem hopen] at hinner
      cases hinner
  · dsimp only
    rw [hfound]

theorem resolveChars_list (hinner : listElement? (trimChars name) = some inner)
    (hresolve : registry.resolveChars inner = .ok type) :
    registry.resolveChars name = .ok (.list type) := by
  rw [resolveChars]
  split
  · next found hfound =>
      obtain rfl := Option.some.inj (hinner.symm.trans hfound)
      rw [hresolve]
      rfl
  · next hnone =>
      rw [hinner] at hnone
      cases hnone

/-- The types that need no declaration are found under their texts. -/
theorem find?_initial (hlist : type.isList = false) (hobject : type.objectName? = none) :
    initial.aliases.find? (key type.text) = some type := by
  cases type with
  | list element => cases hlist
  | object name => cases hobject
  | _ => decide +kernel

/-- A type that is no list is found under its text. -/
theorem find?_text (hlist : type.isList = false)
    (hregistered : ∀ name ∈ type.objectNames, Registers registrations name) :
    (initial.after registrations).aliases.find? (key type.text) = some type := by
  rcases hobject : type.objectName? with _ | name
  · exact find?_after registrations (find?_initial hlist hobject)
  · cases type with
    | object name => exact (hregistered name List.mem_cons_self).find?_after
    | _ => cases hobject

/-- The text of a type that is no list has no angle bracket. -/
theorem open_not_mem_text (hlist : type.isList = false)
    (hregistered : ∀ name ∈ type.objectNames, Registers registrations name) :
    '<' ∉ type.text.toList := by
  cases type with
  | list element => cases hlist
  | object name =>
      obtain ⟨_, _, plain, _⟩ := hregistered name List.mem_cons_self
      exact plain
  | _ => decide

/-- **What writes a type is read as that type**, whatever was registered with or
without success: the text of the type, with its ASCII letters in either case and
blanks around any of its names. Its object types, if it has any, must be among
those that were registered. -/
theorem resolve_written {name : String}
    (hregistered : ∀ name ∈ type.objectNames, Registers registrations name)
    (hwritten : type.Written name.toList) :
    (initial.after registrations).resolve name = .ok type := by
  unfold resolve
  generalize name.toList = cs at hwritten
  -- how the text is written follows the nesting of the type, as the reader does
  induction hwritten with
  | @name type front name back hlist hname hfront hback =>
      have htrim : trimChars (front ++ name ++ back) = trimChars name :=
        trimChars_between hfront name hback
      have hopen : '<' ∉ trimChars name := by
        rw [hname.trimChars.mem_iff (by decide +kernel)]
        exact fun hmem => open_not_mem_text hlist hregistered (mem_of_mem_trimChars hmem)
      have hkey : lower (String.ofList (trimChars name)) = key type.text := hname.trimChars.lower_eq
      have hfound := find?_text hlist hregistered
      rw [← hkey] at hfound
      rw [← htrim] at hopen hfound
      exact resolveChars_name hopen hfound
  | @list element front name middle inner back hname hinner hfront hmiddle hback ih =>
      refine resolveChars_list ?_ (ih hregistered)
      rw [List.append_assoc name, trimChars_list hname _ hfront hback, ← List.append_assoc name]
      exact listElement?_list hname hmiddle inner

/-- Two registrations that fail, of `List` and of an alias that `Author` has
taken, and one that adds the object type `Author`; a list of lists of it in mixed
case and with blanks. -/
theorem resolve_written_authors :
    let registrations : List Registration :=
      [.object "List" (by decide), .object "Author" (by decide), .named " AUTHOR" .map]
    let type : ValueType := .list (.list (.object "Author"))
    (∀ name ∈ type.objectNames, Registers registrations name) ∧
      type.Written " lIsT< LIST\t<aUTHOR > > ".toList ∧
      (initial.after registrations).resolve " lIsT< LIST\t<aUTHOR > > " = .ok type := by
  intro registrations type
  have hregistered : ∀ name ∈ type.objectNames, Registers registrations name := by
    intro name hmem
    obtain rfl := List.mem_singleton.mp hmem
    let earlier : List Registration := [.object "List" (by decide)]
    have hsucceeds : ((initial.after earlier).registerType "Author").toBool = true := by
      decide +kernel
    obtain ⟨registry, hregister⟩ := exists_ok_of_toBool hsucceeds
    exact ⟨earlier, [.named " AUTHOR" .map], by decide, registry, rfl, hregister⟩
  have hwritten : type.Written " lIsT< LIST\t<aUTHOR > > ".toList := by
    have hspace : Blank [' '] := List.forall_mem_singleton.mpr rfl
    have htab : Blank ['\t'] := List.forall_mem_singleton.mpr rfl
    have hnone : Blank [] := List.forall_mem_nil _
    have hauthor : Written (.object "Author") ([] ++ "aUTHOR".toList ++ [' ']) :=
      .name rfl (by decide +kernel) hnone hspace
    have hauthors := @Written.list _ [' '] "LIST".toList ['\t'] _ [' '] (by decide +kernel) hauthor
      hspace htab hspace
    exact @Written.list _ [' '] "lIsT".toList [] _ [' '] (by decide +kernel) hauthors
      hspace hnone hspace
  exact ⟨hregistered, hwritten, resolve_written hregistered hwritten⟩

end AliasRegistry

end SqlMapper
