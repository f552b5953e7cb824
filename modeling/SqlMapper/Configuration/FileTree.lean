import SqlMapper.Fault
import SqlMapper.Text.Segments

/-!
# File trees

Files that are given by their contents. Reading from a file tree is one way
of reading files, so that what a configuration file builds can be worked out
without a file system.

## Main definitions

* `FileTree` — the type.
* `FileTree.read` — the content of a file, or why there is none.

## Main results

* `FileTree.read_relative` — only a path from the root leads to a listed file.
-/

namespace SqlMapper

/-- Files and directories by the parts of their paths from the root. Every
part but the last of a listed path is a directory too. -/
structure FileTree where
  files : List (List String × String) := []
  directories : List (List String) := []
  deriving Repr

namespace FileTree

/-- A part of a path that leads nowhere else. -/
def isIdle (part : String) : Bool := part = "" || part = "."

/-- The parts of a path that lead somewhere. -/
def parts (path : String) : List String :=
  (Text.split '/' path).filter fun part => !isIdle part

/-- Something lies below the path, or it is listed as a directory. -/
def isDirectory (tree : FileTree) (path : List String) : Bool :=
  path.isEmpty
    || (tree.directories.any fun directory => path.isPrefixOf directory)
    || tree.files.any fun (file, _) => path.length < file.length && path.isPrefixOf file

/-- The bytes that a part of a path may take. -/
def partLimit : Nat := 255

/-- The bytes that a path may take. -/
def pathLimit : Nat := 4095

/-- Follows the parts of a path from the directory `place`, which is given in
reverse. Two dots lead back to the directory that the place lies in. -/
def follow (tree : FileTree) (place : List String) : List String → Except FileFault String
  | [] => .error .isDirectory
  | part :: rest =>
      if isIdle part then tree.follow place rest
      else if part = ".." then tree.follow place.tail rest
      else if partLimit < part.utf8ByteSize then .error .nameTooLong
      else
        let path := (part :: place).reverse
        if tree.isDirectory path then tree.follow (part :: place) rest
        else
          match tree.files.lookup path, rest with
          | none, _ => .error .missing
          | some content, [] => .ok content
          | some _, _ :: _ => .error .notDirectory

/-- The content of the file at a path. A path from the root is followed in
the tree, any other path from an empty directory. -/
def read (tree : FileTree) (path : String) : Except FileFault String :=
  if '\x00' ∈ path.toList then .error .nulInName
  else if pathLimit < path.utf8ByteSize then .error .nameTooLong
  else
    match Text.split '/' path with
    | [""] => .error .missing
    | "" :: parts => tree.follow [] parts
    | parts => follow {} [] parts

/-- A path that does not start at the root leads to no listed file. -/
theorem read_relative (tree : FileTree) {path first : String} {rest : List String}
    (hsplit : Text.split '/' path = first :: rest) (hfirst : first ≠ "") :
    tree.read path = read {} path := by
  rw [read, read, hsplit]
  split
  · rfl
  · split
    · rfl
    · split
      · rfl
      · next h => exact absurd (List.cons.inj h).1 hfirst
      · rfl

end FileTree

end SqlMapper
