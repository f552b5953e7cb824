import SqlMapper.Value.Basic

/-!
# Equality of values

Values are equal if they are of one kind and have equal content. Doubles
compare as numbers, so that the two zeros are equal and a value that is not
a number differs from itself. The order of a parameter bag does not count.
-/

namespace SqlMapper.Value

mutual

/-- The two values are equal. -/
def equal : Value → Value → Bool
  | null, null => true
  | bool a, bool b => a == b
  | int a, int b => a == b
  | long a, long b => a == b
  | double a, double b => a == b
  | string a, string b => a == b
  | bytes a, bytes b => a == b
  | list a, list b => equalItems a b
  | map a, map b => equalEntries a b
  | params a, params b => a.length == b.length && includedIn b a
  | object s a, object t b => s == t && equalEntries a b
  | _, _ => false

/-- The lists agree element by element. -/
def equalItems : List Value → List Value → Bool
  | [], [] => true
  | a :: as, b :: bs => equal a b && equalItems as bs
  | _, _ => false

/-- The entries agree one by one, names included. -/
def equalEntries : List (String × Value) → List (String × Value) → Bool
  | [], [] => true
  | (k, a) :: as, (l, b) :: bs => k == l && equal a b && equalEntries as bs
  | _, _ => false

/-- Every entry of the second list has an equal value under its name in
`whole`. -/
def includedIn (whole : List (String × Value)) : List (String × Value) → Bool
  | [] => true
  | (k, a) :: as =>
      (match Entries.find? k whole with
        | some b => equal a b
        | none => false) && includedIn whole as

end

end SqlMapper.Value
