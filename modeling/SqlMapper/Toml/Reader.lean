import SqlMapper.Toml.Scalar

/-!
# Reading TOML

A document is read line by line: blank lines and comments, headers, and keys
with values. The lines behind a header belong to its table.

## Main definitions

* `readValue`, `readKey` — values and dotted keys.
* `parse` — the table of a document, if it is a TOML document.
-/

namespace SqlMapper.Toml

/-! ## Keys -/

/-- A character of a key without quotes. -/
def isBareKey (c : Char) : Bool := c.isAlphanum || c == '_' || c == '-'

/-- One part of a key. -/
def readKeyPart (cs : List Char) : Option (String × List Char) :=
  match cs with
  | '"' :: rest => do
      let (chars, rest) ← readLine '"' true (rest.length + 1) rest
      return (String.ofList chars, rest)
  | '\'' :: rest => do
      let (chars, rest) ← readLine '\'' false (rest.length + 1) rest
      return (String.ofList chars, rest)
  | _ =>
      match cs.takeWhile isBareKey with
      | [] => none
      | chars => some (String.ofList chars, cs.dropWhile isBareKey)

/-- The parts of a dotted key, with spaces around each. -/
def readKeyParts : Nat → List Char → Option ((List String) × List Char)
  | 0, _ => none
  | fuel + 1, cs => do
      let (part, rest) ← readKeyPart (skipSpace cs)
      match skipSpace rest with
      | '.' :: more => do
          let (parts, rest) ← readKeyParts fuel more
          return (part :: parts, rest)
      | rest => return ([part], rest)

/-- A key has fewer parts than this, and values are nested less deep. -/
def depthLimit : Nat := 80

/-- A dotted key: the parts before the last one, and the last one. -/
def readKey (cs : List Char) : Option ((List String × String) × List Char) := do
  let (parts, rest) ← readKeyParts (cs.length + 1) cs
  if depthLimit ≤ parts.length then none
  else
    match parts.reverse with
    | [] => none
    | last :: before => return ((before.reverse, last), rest)

/-! ## Values -/

/-- The text behind spaces, comments and line ends. The fuel bounds the
number of lines. -/
def skipLines : Nat → List Char → List Char
  | 0, cs => cs
  | fuel + 1, cs =>
      let rest := skipComment (skipSpace cs)
      match lineEnd? rest with
      | some rest => skipLines fuel rest
      | none => rest

/-- A scalar. -/
def readScalar (cs : List Char) : Option (Node × List Char) :=
  match readString cs with
  | some (s, rest) => some (.string s, rest)
  | none =>
      match Text.dropPrefix? "true".toList cs, Text.dropPrefix? "false".toList cs with
      | some rest, _ => some (.boolean true, rest)
      | none, some rest => some (.boolean false, rest)
      | none, none => (readDateTime cs).or (readNumber cs)

mutual

/-- A value that is nested at most `depth` deep. The fuel bounds the number
of steps. -/
def readValue : (fuel depth : Nat) → List Char → Option (Node × List Char)
  | 0, _, _ => none
  | fuel + 1, depth, cs =>
      match cs, depth with
      | '[' :: _, 0 | '\x7b' :: _, 0 => none
      | '[' :: rest, depth + 1 => do
          let (items, rest) ← readItems fuel depth rest
          return (.array items, rest)
      | '\x7b' :: rest, depth + 1 => do
          let (entries, rest) ←
            match skipSpace rest with
            | '\x7d' :: rest => some ([], rest)
            | rest => readPairs fuel depth [] rest
          return (.table { inline := true } entries, rest)
      | _, _ => readScalar cs

/-- The rest of an array: values with commas between them and maybe one at
the end, on any number of lines. -/
def readItems : (fuel depth : Nat) → List Char → Option ((List Node) × List Char)
  | 0, _, _ => none
  | fuel + 1, depth, cs =>
      match skipLines cs.length cs with
      | ']' :: rest => some ([], rest)
      | cs => do
          let (item, rest) ← readValue fuel depth cs
          match skipLines rest.length rest with
          | ',' :: rest => do
              let (items, rest) ← readItems fuel depth rest
              return (item :: items, rest)
          | ']' :: rest => return ([item], rest)
          | _ => none

/-- The rest of a table in braces after what was read so far: keys with
values and commas between them. -/
def readPairs : (fuel depth : Nat) → Table → List Char → Option (Table × List Char)
  | 0, _, _, _ => none
  | fuel + 1, depth, table, cs => do
      let ((path, key), rest) ← readKey cs
      let rest ← readMark '=' rest
      let (value, rest) ← readValue fuel depth (skipSpace rest)
      let table ← table.assign true key value path
      match skipSpace rest with
      | ',' :: rest => readPairs fuel depth table rest
      | '\x7d' :: rest => return (table, rest)
      | _ => none

end

/-! ## Lines -/

/-- A line of a document. -/
inductive Line where
  /-- The header of a table. -/
  | header (path : List String) (key : String)
  /-- The header of one of several tables. -/
  | repeated (path : List String) (key : String)
  /-- A key with its value. -/
  | entry (path : List String) (key : String) (value : Node)

/-- The text behind the rest of a line, which may hold a comment. -/
def endLine (cs : List Char) : Option (List Char) :=
  match skipComment (skipSpace cs) with
  | [] => some []
  | rest => lineEnd? rest

/-- A header or a key with its value, and the rest of its line. -/
def readLineOf (cs : List Char) : Option (Line × List Char) :=
  match cs with
  | '[' :: '[' :: rest => do
      let ((path, key), rest) ← readKey rest
      let rest ← readMark ']' rest
      let rest ← readMark ']' rest
      return (.repeated path key, ← endLine rest)
  | '[' :: rest => do
      let ((path, key), rest) ← readKey rest
      let rest ← readMark ']' rest
      return (.header path key, ← endLine rest)
  | _ => do
      let ((path, key), rest) ← readKey cs
      let rest ← readMark '=' rest
      let rest := skipSpace rest
      let (value, rest) ← readValue (2 * rest.length + 2) (depthLimit - 1) rest
      return (.entry path key value, ← endLine rest)

/-- The lines of a document. The fuel bounds their number. -/
def readDocument : Nat → List Char → Option (List Line)
  | 0, _ => none
  | fuel + 1, cs =>
      match skipSpace cs with
      | [] => some []
      | '#' :: rest => do readDocument fuel (← endLine ('#' :: rest))
      | '\n' :: rest => readDocument fuel rest
      | '\r' :: rest => do readDocument fuel (← lineEnd? ('\r' :: rest))
      | cs => do
          let (line, rest) ← readLineOf cs
          return line :: (← readDocument fuel rest)

/-! ## Assembly -/

/-- The entries at the start of the lines, and the lines from the first
header on. -/
def splitSection : List Line → List (List String × String × Node) × List Line
  | .entry path key value :: lines =>
      let (entries, rest) := splitSection lines
      ((path, key, value) :: entries, rest)
  | lines => ([], lines)

/-- Adds entries to a table in turn. -/
def addEntries (entries : List (List String × String × Node)) (table : Table) : Option Table :=
  entries.foldlM (fun table (path, key, value) => table.assign false key value path) table

/-- Adds the sections of the lines to the document. -/
def addSections : Nat → List Line → Table → Option Table
  | 0, _, _ => none
  | _, [], document => some document
  | fuel + 1, line :: lines, document =>
      let (entries, rest) := splitSection lines
      match line with
      | .header path key => do
          addSections fuel rest (← document.openTable (addEntries entries) path key)
      | .repeated path key => do
          addSections fuel rest (← document.appendTable (addEntries entries) path key)
      | .entry .. => none

/-- The document that the lines make up. -/
def assemble (lines : List Line) : Option Table := do
  let (entries, sections) := splitSection lines
  addSections (lines.length + 1) sections (← addEntries entries [])

/-- Reads a document. -/
def parse (content : String) : Option Table := do
  let cs := content.toList
  let cs := (Text.dropPrefix? ['\uFEFF'] cs).getD cs
  assemble (← readDocument (cs.length + 1) cs)

end SqlMapper.Toml
