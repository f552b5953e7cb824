import SqlMapper.Fault
import SqlMapper.Text.Segments

/-!
# Accessor names: the property that an accessor method addresses

An accessor method is a prefix `is`, `get` or `set` followed by a property.
Behind an underscore the property is spelled out. Otherwise its first letter
goes to lower case, unless the second character is upper case, as in an
abbreviation.
-/

namespace SqlMapper

/-- What follows the prefix of an accessor method. -/
def accessorRest? (method : List Char) : Option (List Char) :=
  (Text.dropPrefix? ['i', 's'] method).or <|
    (Text.dropPrefix? ['g', 'e', 't'] method).or <|
      Text.dropPrefix? ['s', 'e', 't'] method

/-- The property that the rest of an accessor method names; none if nothing
is left. -/
def propertyOfRest? : List Char → Option (List Char)
  | [] => none
  | '_' :: rest => if rest.isEmpty then none else some rest
  | first :: rest =>
      match rest with
      | second :: _ =>
          if Text.isUppercase second then some (first :: rest)
          else some (Text.lowerChar first ++ rest)
      | [] => some (Text.lowerChar first)

/-- The property that an accessor method addresses. -/
def propertyOfAccessor (method : String) : Except Fault String :=
  match accessorRest? method.toList with
  | none => .error (.reflection (.noAccessorPrefix method))
  | some rest =>
      match propertyOfRest? rest with
      | none => .error (.reflection (.noPropertyAfterPrefix method))
      | some property => .ok (String.ofList property)

end SqlMapper
