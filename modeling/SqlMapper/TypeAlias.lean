import SqlMapper.Fault
import SqlMapper.Text.Segments

/-!
# Type aliases: the names under which types are written

A type is written by an alias in any case. `List<…>` around a name makes a
list type of it, to any depth. Every registry starts with the names of the
scalar types and their synonyms.

## Main definitions

* `AliasRegistry.register` — adds an alias; one that stands for another type
  already is refused.
* `AliasRegistry.resolve` — reads the name of a type.
-/

namespace SqlMapper

/-- The types by alias, in lower case. -/
structure AliasRegistry where
  aliases : Entries ValueType

namespace AliasRegistry

/-- The aliases of the types that need no declaration. -/
def initial : AliasRegistry where
  aliases :=
    [("boolean", .bool), ("bool", .bool), ("int", .int), ("integer", .int), ("long", .long),
     ("double", .double), ("float", .double), ("string", .string), ("bytes", .bytes),
     ("byte[]", .bytes), ("map", .map), ("hashmap", .map), ("list", .list .any),
     ("object", .any), ("parammap", .params)]

/-- The form under which an alias is kept. -/
def key (name : String) : String := Text.lower (Text.trim name)

/-- Adds an alias. -/
def register (registry : AliasRegistry) (name : String) (type : ValueType) :
    Except Fault AliasRegistry :=
  match registry.aliases.find? (key name) with
  | some existing =>
      if existing = type then .ok registry
      else .error (.builder (.aliasTaken name existing))
  | none => .ok { aliases := registry.aliases.put (key name) type }

/-- Adds the name of an object type as an alias of it. -/
def registerType (registry : AliasRegistry) (type : TypeName) : Except Fault AliasRegistry :=
  registry.register type (.object type)

/-! ## Reading type names -/

/-- The text between the angle brackets of a list type. -/
def listElement? (name : List Char) : Option (List Char) := do
  let (outer, rest) ← Text.cutFirst '<' name
  if (Text.trimChars outer).map Char.toLower = ['l', 'i', 's', 't'] then
    Text.dropSuffix? ['>'] rest
  else none

/-- What stands behind a separator is shorter than the text. -/
theorem cutFirst_length {sep : Char} {cs before after : List Char}
    (h : Text.cutFirst sep cs = some (before, after)) : after.length < cs.length := by
  induction cs generalizing before after with
  | nil => simp [Text.cutFirst] at h
  | cons c cs ih =>
      by_cases hc : c = sep
      · simp [Text.cutFirst, hc] at h
        simp [h.2]
      · simp only [Text.cutFirst, hc, if_false, Option.map_eq_some_iff] at h
        obtain ⟨⟨b, a⟩, hcut, heq⟩ := h
        simp only [Prod.mk.injEq] at heq
        have := ih hcut
        rw [← heq.2, List.length_cons]
        omega

/-- A text without a given end is no longer than the text. -/
theorem dropSuffix?_length {tail cs rest : List Char}
    (h : Text.dropSuffix? tail cs = some rest) : rest.length ≤ cs.length := by
  simp only [Text.dropSuffix?, Option.map_eq_some_iff] at h
  obtain ⟨r, hr, rfl⟩ := h
  have := congrArg List.length (Text.dropPrefix?_eq_some_iff.mp hr)
  simp only [List.length_reverse, List.length_append] at this ⊢
  omega

/-- The element of a list type is shorter than its name. -/
theorem listElement?_length {name inner : List Char} (h : listElement? name = some inner) :
    inner.length < name.length := by
  simp only [listElement?, Option.bind_eq_bind, Option.bind_eq_some_iff] at h
  obtain ⟨⟨outer, rest⟩, hcut, hif⟩ := h
  split at hif
  · exact Nat.lt_of_le_of_lt (dropSuffix?_length hif) (cutFirst_length hcut)
  · simp at hif

/-- Trimming does not lengthen a text. -/
theorem trimChars_length (cs : List Char) : (Text.trimChars cs).length ≤ cs.length := by
  have h (l : List Char) : (l.dropWhile Text.isBlank).length ≤ l.length :=
    (List.dropWhile_sublist _).length_le
  have h1 := h cs
  have h2 := h (Text.trimStart cs).reverse
  simp only [Text.trimChars, Text.trimEnd, Text.trimStart, List.length_reverse] at *
  omega

/-- Reads the characters of a type name. -/
def resolveChars (registry : AliasRegistry) (name : List Char) : Except Fault ValueType :=
  match _h : listElement? (Text.trimChars name) with
  | some inner => do return .list (← resolveChars registry inner)
  | none =>
      let name := String.ofList (Text.trimChars name)
      match registry.aliases.find? (Text.lower name) with
      | some type => .ok type
      | none => .error (.builder (.unknownAlias name))
termination_by name.length
decreasing_by
  exact Nat.lt_of_lt_of_le (listElement?_length _h) (trimChars_length name)

/-- Reads the name of a type. -/
def resolve (registry : AliasRegistry) (name : String) : Except Fault ValueType :=
  registry.resolveChars name.toList

/-- The name is the name of a type. -/
def contains (registry : AliasRegistry) (name : String) : Bool :=
  match registry.resolve name with
  | .ok _ => true
  | .error _ => false

end AliasRegistry

end SqlMapper
