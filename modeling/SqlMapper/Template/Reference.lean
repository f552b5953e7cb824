import SqlMapper.Fault
import SqlMapper.Text.Blank
import SqlMapper.Text.Segments

/-!
# Parameter references: the content of a token

A reference names a property, or an expression in parentheses, and says more
about the parameter behind it:

```
head [":" type] ("," key ["=" value])*
```

Padding may stand before the head, before the type and before every key;
every part is trimmed. What is left over must be blank.

## Main definitions

* `Reference` — a parsed reference.
* `Reference.parse` — the reader.
* `Reference.option?` — the value of an option.
-/

namespace SqlMapper

/-- What a reference is about. -/
inductive ReferenceHead where
  | property (path : String)
  | expression (text : String)
  deriving DecidableEq, Repr

/-- A parsed parameter reference. -/
structure Reference where
  head : ReferenceHead
  /-- The type behind the colon. -/
  shorthand : Option String
  /-- The options as written, in order. -/
  options : List (String × String)
  deriving DecidableEq, Repr

namespace Reference

/-- The value of an option: the last one given, and for the wire type also
the one behind the colon. -/
def option? (r : Reference) (key : String) : Option String :=
  match r.options.reverse.find? fun option => option.1 = key with
  | some option => some option.2
  | none => if key = "jdbcType" then r.shorthand else none

/-! ## Parts -/

/-- Drops the padding at the start. -/
def skipPadding (cs : List Char) : List Char := cs.dropWhile Text.isPadding

/-- The characters before the first one in `stops`, and the rest. -/
def run (stops : List Char) (cs : List Char) : List Char × List Char :=
  (cs.takeWhile (!stops.contains ·), cs.dropWhile (!stops.contains ·))

/-- A part as it is kept: without the blanks at its ends. -/
def part (cs : List Char) : String := String.ofList (Text.trimChars cs)

/-- Behind the character `mark`, a run up to the next comma that is not
empty; without one nothing is read. -/
def readMarked? (mark : Char) (cs : List Char) : Option (List Char) × List Char :=
  match cs with
  | [] => (none, [])
  | c :: rest =>
      if c = mark then
        match run [','] rest with
        | ([], _) => (none, cs)
        | (text, after) => (some text, after)
      else (none, cs)

/-- The text inside the parentheses that are `depth` deep at the start, up
to where they balance, and the rest. -/
def balanced (depth : Nat) : List Char → Option (List Char × List Char)
  | [] => none
  | c :: cs =>
      if c = ')' then
        match depth with
        | 0 | 1 => some ([], cs)
        | depth + 2 => (balanced (depth + 1) cs).map fun (inner, rest) => (c :: inner, rest)
      else
        (balanced (if c = '(' then depth + 1 else depth) cs).map fun (inner, rest) =>
          (c :: inner, rest)

/-- The head and what follows it. -/
def readHead (cs : List Char) : Except ReferenceFault (ReferenceHead × List Char) :=
  match cs with
  | '(' :: inside =>
      match balanced 1 inside with
      | some (inner, rest) => .ok (.expression (part inner), rest)
      | none => .error (.unbalanced (String.ofList cs))
  | _ =>
      match run [',', ':'] cs with
      | ([], _) => .error (.noProperty (String.ofList cs))
      | (name, rest) => .ok (.property (part name), rest)

/-- One option and what follows it. -/
def readOption (cs : List Char) : (String × String) × List Char :=
  let (key, rest) := run ['=', ','] (skipPadding cs)
  let (value, rest) := readMarked? '=' rest
  ((part key, part (value.getD [])), rest)

/-- What follows a run is no longer than the text. -/
theorem run_rest_length (stops cs : List Char) : (run stops cs).2.length ≤ cs.length :=
  (List.dropWhile_sublist _).length_le

/-- What follows a marked run is no longer than the text. -/
theorem readMarked?_length (mark : Char) (cs : List Char) :
    (readMarked? mark cs).2.length ≤ cs.length := by
  cases cs with
  | nil => simp [readMarked?]
  | cons c rest =>
      have hrun := run_rest_length [','] rest
      cases hr : run [','] rest with
      | mk text after =>
          rw [hr] at hrun
          by_cases hc : c = mark
          · cases text with
            | nil => simp [readMarked?, hc, hr]
            | cons t ts =>
                simp only [readMarked?, hc, hr, if_true, List.length_cons] at hrun ⊢
                omega
          · simp [readMarked?, hc]

/-- What follows an option is no longer than the text. -/
theorem readOption_length (cs : List Char) : (readOption cs).2.length ≤ cs.length := by
  have hskip : (skipPadding cs).length ≤ cs.length := (List.dropWhile_sublist _).length_le
  have hrun := run_rest_length ['=', ','] (skipPadding cs)
  have hmarked := readMarked?_length '=' (run ['=', ','] (skipPadding cs)).2
  simp only [readOption]
  omega

/-- The options, each behind a comma, and what follows them. -/
def readOptions (cs : List Char) : List (String × String) × List Char :=
  match cs with
  | ',' :: rest =>
      let (options, left) := readOptions (readOption rest).2
      ((readOption rest).1 :: options, left)
  | _ => ([], cs)
termination_by cs.length
decreasing_by exact Nat.lt_succ_of_le (readOption_length rest)

/-! ## The reader -/

/-- Reads the characters of a reference; also answers with what is left
over. -/
def read (cs : List Char) : Except ReferenceFault (Reference × List Char) := do
  let (head, rest) ← readHead (skipPadding cs)
  let (shorthand, rest) := readMarked? ':' (skipPadding rest)
  let (options, left) := readOptions rest
  return ({ head, shorthand := shorthand.map part, options }, left)

/-- Reads a reference, all of it. -/
def parse (content : String) : Except Fault Reference :=
  match read content.toList with
  | .error cause => .error (.builder (.reference content cause))
  | .ok (reference, left) =>
      if left.all Text.isBlank then .ok reference
      else
        let position := Text.utf8Length content.toList - Text.utf8Length left
        .error (.builder (.reference content (.leftOver position)))

end Reference

end SqlMapper
