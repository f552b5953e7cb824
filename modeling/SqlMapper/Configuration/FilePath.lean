import SqlMapper.Text.Segments

/-!
# File paths

Paths are texts with slashes between their parts. Only two operations are
needed: putting a path under a base directory, and the directory that a path
lies in.
-/

namespace SqlMapper.FilePath

/-- The path seen from the base directory; a path from the root stays as it
is. -/
def join (base path : String) : String :=
  if Text.startsWith ['/'] path.toList || base.isEmpty then path
  else if base.toList.getLast? = some '/' then base ++ path
  else base ++ "/" ++ path

/-- The path, given in reverse, without slashes and dots at its end that
change nothing. -/
def trimReversed : List Char → List Char
  | '.' :: '/' :: cs => trimReversed ('/' :: cs)
  | '/' :: cs => if cs.isEmpty then ['/'] else trimReversed cs
  | cs => cs
termination_by cs => cs.length

/-- The directory of the last part of a path; the root and the empty path
have none. -/
def parent? (path : String) : Option String :=
  let trimmed := (trimReversed path.toList.reverse).reverse
  if trimmed.isEmpty || trimmed == ['/'] then none
  else
    match Text.cutLast '/' trimmed with
    | none => some ""
    | some (before, _) =>
        if before.isEmpty then some "/"
        else some (String.ofList (trimReversed before.reverse).reverse)

end SqlMapper.FilePath
