import SqlMapper.Json.Document
import SqlMapper.Value.Basic

/-!
# Values as JSON and JSON as values

* A whole number becomes a 32-bit integer if it fits, else a 64-bit integer
  if it fits, else the nearest double.
* A double that is not finite has no JSON form and becomes `null`; bytes
  become an array of numbers; an object becomes its text.
-/

namespace SqlMapper

/-- The double nearest to an integer of at most 64 bits. -/
def nearestDouble (n : Int) : Float :=
  let x := n.natAbs.toUInt64.toFloat
  if n < 0 then -x else x

/-- The integer has 32 bits. -/
def fitsInt (n : Int) : Bool := -0x80000000 ≤ n && n < 0x80000000

/-- The integer has 64 bits. -/
def fitsLong (n : Int) : Bool := -0x8000000000000000 ≤ n && n < 0x8000000000000000

theorem fitsInt_iff {n : Int} : fitsInt n = true ↔ -0x80000000 ≤ n ∧ n < 0x80000000 := by
  simp only [fitsInt, Bool.and_eq_true, decide_eq_true_eq]

theorem fitsLong_iff {n : Int} :
    fitsLong n = true ↔ -0x8000000000000000 ≤ n ∧ n < 0x8000000000000000 := by
  simp only [fitsLong, Bool.and_eq_true, decide_eq_true_eq]

/-- An integer that has 32 bits is the same one with 32 bits. -/
theorem toInt_ofInt_of_fitsInt {n : Int} (h : fitsInt n = true) : (Int32.ofInt n).toInt = n := by
  obtain ⟨hle, hlt⟩ := fitsInt_iff.mp h
  exact Int32.toInt_ofInt_of_le (by omega) (by omega)

/-- An integer that has 64 bits is the same one with 64 bits. -/
theorem toInt_ofInt_of_fitsLong {n : Int} (h : fitsLong n = true) : (Int64.ofInt n).toInt = n := by
  obtain ⟨hle, hlt⟩ := fitsLong_iff.mp h
  exact Int64.toInt_ofInt_of_le (by omega) (by omega)

namespace Value

/-! ## From JSON -/

/-- The value of a whole number. -/
def ofInteger (n : Int) : Value :=
  if fitsInt n then int (Int32.ofInt n)
  else if fitsLong n then long (Int64.ofInt n)
  else double (nearestDouble n)

mutual

/-- The value of a JSON document. -/
def ofJson : Json.Document → Value
  | .null => null
  | .bool b => bool b
  | .integer n => ofInteger n
  | .float x => double x
  | .string s => string s
  | .array items => list (ofJsonItems items)
  | .object members => map (ofJsonMembers members)

/-- The values of the elements of an array. -/
def ofJsonItems : List Json.Document → List Value
  | [] => []
  | item :: items => ofJson item :: ofJsonItems items

/-- The values of the members of an object. -/
def ofJsonMembers : List (String × Json.Document) → List (String × Value)
  | [] => []
  | (key, member) :: members => (key, ofJson member) :: ofJsonMembers members

end

/-! ## To JSON -/

mutual

/-- The JSON form of a value. -/
def toJson : Value → Json.Document
  | null => .null
  | bool b => .bool b
  | int n => .integer n.toInt
  | long n => .integer n.toInt
  | double x => if x.isFinite then .float x else .null
  | string s => .string s
  | bytes bs => .array (bs.map fun b => .integer b.toNat)
  | list items => .array (toJsonItems items)
  | map entries => .object (toJsonMembers entries)
  | params entries => .object (Entries.sorted (toJsonMembers entries))
  | object type slots => .string (object type slots).text

/-- The JSON forms of the elements of a list. -/
def toJsonItems : List Value → List Json.Document
  | [] => []
  | item :: items => toJson item :: toJsonItems items

/-- The JSON forms of named values. -/
def toJsonMembers : List (String × Value) → List (String × Json.Document)
  | [] => []
  | (key, value) :: entries => (key, toJson value) :: toJsonMembers entries

end

end Value

end SqlMapper
