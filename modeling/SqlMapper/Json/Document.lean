import SqlMapper.Association

/-!
# JSON documents

A JSON document as data. Whole numbers and floating numbers are told apart;
the members of an object are sorted by name and no name occurs twice.
-/

namespace SqlMapper.Json

/-- A JSON document. -/
inductive Document where
  | null
  | bool (b : Bool)
  /-- A number written without fraction and exponent, of at most 64 bits. -/
  | integer (n : Int)
  | float (x : Float)
  | string (s : String)
  | array (items : List Document)
  | object (members : List (String × Document))
  deriving Inhabited

end SqlMapper.Json
