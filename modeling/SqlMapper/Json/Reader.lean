import SqlMapper.Json.Document
import SqlMapper.Text.Numeral
import SqlMapper.Text.Segments

/-!
# Reading JSON

A document is one value with blanks around it. Readers take the text from a
position on and answer with what they read and the rest, or not at all.

A number without fraction and exponent that has at most 64 bits is a whole
number; every other number is a double, and one that is too large for a
double is refused. A minus sign in front of zero makes a double too, because
zero has no sign as a whole number.

## Main definitions

* `readNumber`, `readString`, `readValue` — the kinds of values.
* `parse` — the document of a text, if it is JSON.
-/

namespace SqlMapper.Json

/-! ## Blanks -/

/-- Blank between the parts of a document. -/
def isBlank (c : Char) : Bool := c == ' ' || c == '\n' || c == '\t' || c == '\r'

/-- The text behind blanks. -/
def skipBlank (cs : List Char) : List Char := cs.dropWhile isBlank

/-! ## Numbers -/

/-- Continues the number `n` by the digits as long as it has 64 bits; answers
with the number and the digits left over. -/
def absorb (n : Nat) : List Char → Nat × List Char
  | [] => (n, [])
  | c :: cs =>
      let next := 10 * n + (Text.digit? c).getD 0
      if next < 0x10000000000000000 then absorb next cs else (n, c :: cs)

/-- A power of ten as a double; from 309 on it is infinite. -/
def powerOfTen (e : Nat) : Float := Float.ofScientific 1 false e

/-- The number divided by ten to the power `e`, in steps that do not exceed
the range of powers of ten. -/
def scaleDown (x : Float) (e : Nat) : Float :=
  if e ≤ 308 then x / powerOfTen e
  else if x == 0 then x
  else scaleDown (x / powerOfTen 308) (e - 308)
termination_by e

/-- The double near `n · 10 ^ e`, unless it is too large. -/
def scale? (n : Nat) (e : Int) : Option Float :=
  let x := n.toUInt64.toFloat
  if e < 0 then some (scaleDown x e.natAbs)
  else if n = 0 then some x
  else if 308 < e then none
  else
    let y := x * powerOfTen e.natAbs
    if y.isFinite then some y else none

/-- The digits in front, and the rest. -/
def digits (cs : List Char) : List Char × List Char :=
  (cs.takeWhile Char.isDigit, cs.dropWhile Char.isDigit)

/-- The digits of a whole number: a zero alone, or digits that start with
another one. -/
def readWhole (cs : List Char) : Option (List Char × List Char) :=
  match digits cs with
  | ([], _) => none
  | ('0' :: _ :: _, _) => none
  | read => some read

/-- The digits of a fraction, which may be absent. -/
def readFraction (cs : List Char) : Option (Option (List Char) × List Char) :=
  match cs with
  | '.' :: cs =>
      match digits cs with
      | ([], _) => none
      | (places, rest) => some (some places, rest)
  | _ => some (none, cs)

/-- An exponent, which may be absent. -/
def readExponent (cs : List Char) : Option (Option Int × List Char) :=
  match cs with
  | [] => some (none, [])
  | c :: more =>
      if c == 'e' || c == 'E' then
        let (negative, more) := match more with
          | '-' :: more => (true, more)
          | '+' :: more => (false, more)
          | _ => (false, more)
        match digits more with
        | ([], _) => none
        | (power, rest) => do
            let e : Int ← Text.digitsFrom 0 power
            return (some (if negative then -e else e), rest)
      else some (none, cs)

/-- A whole number of at most 64 bits as it is written behind a sign. -/
def ofWhole (negative : Bool) (n : Nat) : Document :=
  if !negative then .integer n
  else if n = 0 || 0x8000000000000000 < n then .float (-n.toUInt64.toFloat)
  else .integer (-n)

/-- A number. Digits that 64 bits cannot hold only shift the decimal point. -/
def readNumber (cs : List Char) : Option (Document × List Char) := do
  let (negative, cs) := match cs with
    | '-' :: cs => (true, cs)
    | _ => (false, cs)
  let (whole, cs) ← readWhole cs
  let (places, cs) ← readFraction cs
  let (exponent, rest) ← readExponent cs
  let (n, skipped) := absorb 0 whole
  if skipped.isEmpty && places.isNone && exponent.isNone then
    return (ofWhole negative n, rest)
  else
    let places := places.getD []
    let (n, ignored) := absorb n places
    let point : Int := skipped.length - (places.length - ignored.length)
    let x ← scale? n (point + exponent.getD 0)
    return (.float (if negative then -x else x), rest)

/-! ## Strings -/

/-- The number that four hexadecimal digits spell. -/
def readCode : List Char → Option (Nat × List Char)
  | a :: b :: c :: d :: rest => do
      let code ← [a, b, c, d].foldlM (fun n x => do return 16 * n + (← Text.hexDigit? x)) 0
      return (code, rest)
  | _ => none

/-- The character with the given code, which is one or else the first half of
a pair whose second half follows. -/
def readPair (code : Nat) (cs : List Char) : Option (Char × List Char) :=
  if h : code.isValidChar then some (Char.ofNatAux code h, cs)
  else if code < 0xDC00 then
    match cs with
    | '\\' :: 'u' :: cs => do
        let (second, rest) ← readCode cs
        if 0xDC00 ≤ second && second ≤ 0xDFFF then
          return (Char.ofNat (0x10000 + 0x400 * (code - 0xD800) + (second - 0xDC00)), rest)
        else none
    | _ => none
  else none

/-- The character that an escape means, read behind its backslash. -/
def readEscape : List Char → Option (Char × List Char)
  | '"' :: cs => some ('"', cs)
  | '\\' :: cs => some ('\\', cs)
  | '/' :: cs => some ('/', cs)
  | 'b' :: cs => some ('\x08', cs)
  | 'f' :: cs => some ('\x0c', cs)
  | 'n' :: cs => some ('\n', cs)
  | 'r' :: cs => some ('\r', cs)
  | 't' :: cs => some ('\t', cs)
  | 'u' :: cs => do
      let (code, rest) ← readCode cs
      readPair code rest
  | _ => none

/-- The rest of a string behind its first quote. The fuel bounds the number
of characters. -/
def readChars : Nat → List Char → Option (List Char × List Char)
  | 0, _ => none
  | _, [] => none
  | _, '"' :: rest => some ([], rest)
  | fuel + 1, '\\' :: cs => do
      let (escaped, cs) ← readEscape cs
      let (others, rest) ← readChars fuel cs
      return (escaped :: others, rest)
  | fuel + 1, c :: cs =>
      if c < ' ' then none
      else do
        let (others, rest) ← readChars fuel cs
        return (c :: others, rest)

/-- A string in quotes. -/
def readString : List Char → Option (String × List Char)
  | '"' :: cs => do
      let (chars, rest) ← readChars (cs.length + 1) cs
      return (String.ofList chars, rest)
  | _ => none

/-! ## Values -/

/-- Arrays and objects may be nested this deep. -/
def depthLimit : Nat := 127

/-- A word that stands for a value. -/
def readWord (cs : List Char) : Option (Document × List Char) :=
  let word (text : String) (document : Document) :=
    (Text.dropPrefix? text.toList cs).map fun rest => (document, rest)
  ((word "null" .null).or (word "true" (.bool true))).or (word "false" (.bool false))

mutual

/-- A value that is nested at most `depth` deep, with blanks in front. The
fuel bounds the number of steps. -/
def readValue : (fuel depth : Nat) → List Char → Option (Document × List Char)
  | 0, _, _ => none
  | fuel + 1, depth, cs =>
      match skipBlank cs, depth with
      | '[' :: _, 0 | '\x7b' :: _, 0 => none
      | '[' :: cs, depth + 1 => do
          let (items, rest) ←
            match skipBlank cs with
            | ']' :: rest => some ([], rest)
            | cs => readItems fuel depth cs
          return (.array items, rest)
      | '\x7b' :: cs, depth + 1 => do
          let (members, rest) ←
            match skipBlank cs with
            | '\x7d' :: rest => some ([], rest)
            | cs => readMembers fuel depth cs
          return (.object (Entries.sorted members), rest)
      | '"' :: cs, _ => do
          let (s, rest) ← readString ('"' :: cs)
          return (.string s, rest)
      | cs, _ => (readWord cs).or (readNumber cs)

/-- The rest of an array that is not empty. -/
def readItems : (fuel depth : Nat) → List Char → Option (List Document × List Char)
  | 0, _, _ => none
  | fuel + 1, depth, cs => do
      let (item, rest) ← readValue fuel depth cs
      match skipBlank rest with
      | ',' :: rest => do
          let (items, rest) ← readItems fuel depth rest
          return (item :: items, rest)
      | ']' :: rest => return ([item], rest)
      | _ => none

/-- The rest of an object that is not empty, in the order of the text. -/
def readMembers : (fuel depth : Nat) → List Char → Option (Entries Document × List Char)
  | 0, _, _ => none
  | fuel + 1, depth, cs => do
      let (key, rest) ← readString (skipBlank cs)
      match skipBlank rest with
      | ':' :: rest => do
          let (member, rest) ← readValue fuel depth rest
          match skipBlank rest with
          | ',' :: rest => do
              let (members, rest) ← readMembers fuel depth rest
              return ((key, member) :: members, rest)
          | '\x7d' :: rest => return ([(key, member)], rest)
          | _ => none
      | _ => none

end

/-- The document of a text. -/
def parse (content : String) : Option Document := do
  let cs := content.toList
  let (document, rest) ← readValue (2 * cs.length + 2) depthLimit cs
  if (skipBlank rest).isEmpty then some document else none

end SqlMapper.Json
