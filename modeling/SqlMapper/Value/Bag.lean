import SqlMapper.Fault

/-!
# Parameter bags: the named arguments of one call

A bag lists names in the order of their first mention. Reading a name that
it does not hold is a fault that lists the names it does hold.
-/

namespace SqlMapper

/-- Named arguments in the order of their first mention. -/
abbrev Bag := Entries Value

/-- The argument of the given name. -/
def Bag.get (bag : Bag) (name : String) : Except Fault Value :=
  match bag.find? name with
  | some value => .ok value
  | none => .error (.binding (.missingParameter name bag.keys))

end SqlMapper
