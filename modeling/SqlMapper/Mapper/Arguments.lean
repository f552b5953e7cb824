import SqlMapper.Mapper.Declaration
import SqlMapper.Value.Bag

/-!
# Arguments: from a call to the one parameter of a statement

No argument becomes `null`, a single one is the parameter itself. Several
become a bag, in which each argument has the name of its parameter and, where
no parameter has that name, also a name by its position: `param1`, `param2`,
….
-/

namespace SqlMapper

namespace MethodDeclaration

/-- The names of parameters, the first of them at position `start`; a
parameter without a name is named after its position. -/
def namesFrom (start : Nat) : List MethodParameter → List String
  | [] => []
  | p :: ps => p.name.getD ("arg" ++ Text.decimal start) :: namesFrom (start + 1) ps

/-- The effective names of the parameters. -/
def parameterNames (method : MethodDeclaration) : List String :=
  namesFrom 0 method.parameters

end MethodDeclaration

/-- The name of the parameter at a position, counted from one. -/
def positionalName (position : Nat) : String := "param" ++ Text.decimal position

/-- Puts named arguments into a bag, the first of them at `position`. The
positional name is skipped where it is one of the effective names `all`. -/
def Bag.addArguments (all : List String) (position : Nat) :
    List (String × Value) → Bag → Bag
  | [], bag => bag
  | (name, value) :: arguments, bag =>
      let bag := bag.put name value
      let positional := positionalName position
      let bag := if positional ∈ all then bag else bag.put positional value
      Bag.addArguments all (position + 1) arguments bag

/-- The parameter that a call passes to its statement. -/
def MethodDeclaration.parameter (method : MethodDeclaration) (arguments : List Value) :
    Except Fault Value :=
  let names := method.parameterNames
  if arguments.length ≠ names.length then
    .error (.binding (.argumentCount method.name names.length arguments.length))
  else
    match arguments with
    | [] => .ok .null
    | [single] => .ok single
    | _ => .ok (.params (Bag.addArguments names 1 (names.zip arguments) []))

end SqlMapper
