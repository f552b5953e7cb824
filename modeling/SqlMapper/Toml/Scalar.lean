import SqlMapper.Text.Numeral
import SqlMapper.Text.Segments
import SqlMapper.Toml.Node

/-!
# TOML scalars: strings, numbers, dates

Readers take the text from a position on and answer with what they read and
the rest, or not at all.

## Main definitions

* `readString` — the four kinds of strings.
* `readNumber` — integers of at most 64 bits, and floating numbers.
* `readDateTime` — dates, times, and both, with an optional offset.
-/

namespace SqlMapper.Toml

/-! ## Characters -/

/-- Space or tab. -/
def isSpace (c : Char) : Bool := c == ' ' || c == '\t'

/-- The text behind spaces and tabs. -/
def skipSpace (cs : List Char) : List Char := cs.dropWhile isSpace

/-- A character that may stand in a comment or string. -/
def isText (c : Char) : Bool := c == '\t' || (' ' ≤ c && c ≤ '~') || 0x80 ≤ c.toNat

/-- The text behind a line end. -/
def lineEnd? : List Char → Option (List Char)
  | '\n' :: cs => some cs
  | '\r' :: '\n' :: cs => some cs
  | _ => none

/-- The text behind a comment, which ends before the end of the line. -/
def skipComment : List Char → List Char
  | '#' :: cs => cs.dropWhile isText
  | cs => cs

/-! ## Strings -/

/-- The character with the code that `count` hexadecimal digits spell. -/
def readCode (count : Nat) (cs : List Char) : Option (Char × List Char) := do
  let digits := cs.take count
  if digits.length < count then none
  else
    let code ← digits.foldlM (fun n c => do return 16 * n + (← Text.hexDigit? c)) 0
    if h : code.isValidChar then return (Char.ofNatAux code h, cs.drop count) else none

/-- The character that an escape means, read behind its backslash. -/
def readEscape : List Char → Option (Char × List Char)
  | 'b' :: cs => some ('\x08', cs)
  | 't' :: cs => some ('\t', cs)
  | 'n' :: cs => some ('\n', cs)
  | 'f' :: cs => some ('\x0c', cs)
  | 'r' :: cs => some ('\r', cs)
  | '"' :: cs => some ('"', cs)
  | '\\' :: cs => some ('\\', cs)
  | 'u' :: cs => readCode 4 cs
  | 'U' :: cs => readCode 8 cs
  | _ => none

/-- The text behind spaces, tabs and line ends. -/
def skipBlankLines : List Char → List Char
  | ' ' :: cs | '\t' :: cs | '\n' :: cs | '\r' :: '\n' :: cs => skipBlankLines cs
  | cs => cs

/-- The text behind a backslash at the end of a line: everything blank up to
the next visible character is skipped. -/
def continued? (cs : List Char) : Option (List Char) :=
  (lineEnd? (skipSpace cs)).map skipBlankLines

/-- The quotes in front of the text, at most five, if they close a string of
several lines: what they add to the string, and the rest. -/
def closingQuotes? (quote : Char) (cs : List Char) : Option ((List Char) × List Char) :=
  let count := min 5 (cs.takeWhile (· == quote)).length
  if count < 3 then none else some (List.replicate (count - 3) quote, cs.drop count)

/-- The rest of a string on one line. With `escapes`, a backslash starts an
escape. The fuel bounds the number of characters. -/
def readLine (quote : Char) (escapes : Bool) : Nat → List Char → Option ((List Char) × List Char)
  | 0, _ => none
  | _, [] => none
  | fuel + 1, c :: cs =>
      if c = quote then some ([], cs)
      else if escapes && c == '\\' then do
        let (escaped, cs) ← readEscape cs
        let (others, rest) ← readLine quote escapes fuel cs
        return (escaped :: others, rest)
      else if isText c then do
        let (others, rest) ← readLine quote escapes fuel cs
        return (c :: others, rest)
      else none

/-- The rest of a string of several lines, in which every line end is a line
feed. -/
def readLines (quote : Char) (escapes : Bool) : Nat → List Char → Option ((List Char) × List Char)
  | 0, _ => none
  | _, [] => none
  | fuel + 1, c :: cs =>
      match closingQuotes? quote (c :: cs) with
      | some closed => some closed
      | none =>
          match lineEnd? (c :: cs) with
          | some cs => do
              let (others, rest) ← readLines quote escapes fuel cs
              return ('\n' :: others, rest)
          | none =>
              if escapes && c == '\\' then
                match continued? cs with
                | some cs => readLines quote escapes fuel cs
                | none => do
                    let (escaped, cs) ← readEscape cs
                    let (others, rest) ← readLines quote escapes fuel cs
                    return (escaped :: others, rest)
              else if isText c then do
                let (others, rest) ← readLines quote escapes fuel cs
                return (c :: others, rest)
              else none

/-- A string with the given quote. -/
def readQuoted (quote : Char) (escapes : Bool) (cs : List Char) : Option (String × List Char) := do
  let (chars, rest) ←
    match Text.dropPrefix? [quote, quote, quote] cs with
    | some cs =>
        let cs := (lineEnd? cs).getD cs
        readLines quote escapes (cs.length + 1) cs
    | none => do
        let cs ← Text.dropPrefix? [quote] cs
        readLine quote escapes (cs.length + 1) cs
  return (String.ofList chars, rest)

/-- A string of any kind. -/
def readString (cs : List Char) : Option (String × List Char) :=
  match cs with
  | '"' :: _ => readQuoted '"' true cs
  | '\'' :: _ => readQuoted '\'' false cs
  | _ => none

/-! ## Numbers -/

/-- Digits of a base with single underscores between them; answers with the
digits. -/
def readDigits (isDigit : Char → Bool) : List Char → Option ((List Char) × List Char)
  | [] => none
  | c :: cs =>
      if isDigit c then
        match cs with
        | '_' :: more => do
            let (others, rest) ← readDigits isDigit more
            return (c :: others, rest)
        | more =>
            match readDigits isDigit more with
            | some (others, rest) => some (c :: others, rest)
            | none => some ([c], more)
      else none

/-- An optional sign. -/
def readSign : List Char → Bool × List Char
  | '-' :: cs => (true, cs)
  | '+' :: cs => (false, cs)
  | cs => (false, cs)

/-- The digits of a whole decimal number: a zero alone, or digits that start
with another one. -/
def readWhole : List Char → Option ((List Char) × List Char)
  | '0' :: cs => some (['0'], cs)
  | cs => readDigits Char.isDigit cs

/-- The number that digits of a base spell. -/
def ofDigits (base : Nat) (digits : List Char) : Nat :=
  digits.foldl (fun n c => base * n + (Text.hexDigit? c).getD 0) 0

/-- The integer has 64 bits. -/
def inRange (n : Int) : Bool := -0x8000000000000000 ≤ n && n < 0x8000000000000000

/-- An integer behind a prefix that names its base. -/
def readBased (base : Nat) (isDigit : Char → Bool) (cs : List Char) : Option (Node × List Char) := do
  let (digits, rest) ← readDigits isDigit cs
  let n : Int := ofDigits base digits
  if inRange n then return (.integer n, rest) else none

/-- A hexadecimal digit. -/
def isHexDigit (c : Char) : Bool := (Text.hexDigit? c).isSome

/-- The fraction of a floating number. -/
def readFraction : List Char → Option ((List Char) × List Char)
  | '.' :: cs => readDigits Char.isDigit cs
  | _ => none

/-- The exponent of a floating number: its sign and its digits. -/
def readExponent : List Char → Option ((Bool × List Char) × List Char)
  | c :: cs =>
      if c == 'e' || c == 'E' then do
        let (negative, cs) := readSign cs
        let (digits, rest) ← readDigits Char.isDigit cs
        return ((negative, digits), rest)
      else none
  | [] => none

/-- The least number that rounds to infinity. -/
def overflowBound : Nat := Nat.pow 2 1024 - Nat.pow 2 970

/-- The decimal `n · 10 ^ e` rounds to infinity. -/
def overflows (n : Nat) (e : Int) : Bool :=
  if n = 0 then false
  else
    let digits := ((Nat.toDigits 10 n).length : Int)
    if 400 < digits + e then true
    else if digits + e < 0 then false
    else overflowBound * Nat.pow 10 (-e).toNat ≤ n * Nat.pow 10 e.toNat

/-- The part of the text in front of the rest. -/
def consumed (cs rest : List Char) : String :=
  String.ofList (cs.take (cs.length - rest.length))

/-- A floating number with a fraction, an exponent or both. It must not be
too large for a double. -/
def readFloat (cs : List Char) : Option (Node × List Char) := do
  let (negative, body) := readSign cs
  let (whole, afterWhole) ← readWhole body
  let fraction := readFraction afterWhole
  let afterFraction := (fraction.map Prod.snd).getD afterWhole
  let exponent := readExponent afterFraction
  if fraction.isNone && exponent.isNone then none
  else
    let rest := (exponent.map Prod.snd).getD afterFraction
    let places := (fraction.map Prod.fst).getD []
    let mantissa := ofDigits 10 (whole ++ places)
    let (down, power) := (exponent.map Prod.fst).getD (false, [])
    let power : Int := ofDigits 10 power
    let e := (if down then -power else power) - (places.length : Int)
    if !negative && overflows mantissa e then none
    else return (.float (consumed cs rest), rest)

/-- Infinity, or what is not a number, with an optional sign. -/
def readSpecialFloat (cs : List Char) : Option (Node × List Char) := do
  let (_, body) := readSign cs
  let rest ← (Text.dropPrefix? "inf".toList body).or (Text.dropPrefix? "nan".toList body)
  return (.float (consumed cs rest), rest)

/-- A decimal integer. -/
def readInteger (cs : List Char) : Option (Node × List Char) := do
  let (negative, body) := readSign cs
  let (digits, rest) ← readWhole body
  let n : Int := ofDigits 10 digits
  let n := if negative then -n else n
  if inRange n then return (.integer n, rest) else none

/-- A number. -/
def readNumber (cs : List Char) : Option (Node × List Char) :=
  match cs with
  | '0' :: 'x' :: digits => readBased 16 isHexDigit digits
  | '0' :: 'o' :: digits => readBased 8 (fun c => '0' ≤ c && c ≤ '7') digits
  | '0' :: 'b' :: digits => readBased 2 (fun c => c == '0' || c == '1') digits
  | _ => (readFloat cs).or ((readSpecialFloat cs).or (readInteger cs))

/-! ## Dates and times -/

/-- Exactly `count` digits, with the number they spell in `low … high`. -/
def readField (count low high : Nat) (cs : List Char) : Option (Nat × List Char) :=
  let digits := cs.take count
  let n := ofDigits 10 digits
  if digits.length == count && digits.all Char.isDigit && low ≤ n && n ≤ high then
    some (n, cs.drop count)
  else none

/-- A fixed character. -/
def readMark (mark : Char) : List Char → Option (List Char)
  | c :: cs => if c = mark then some cs else none
  | [] => none

/-- Number of days of a month. -/
def daysOf (year month : Nat) : Nat :=
  let leap := year % 4 == 0 && (year % 100 != 0 || year % 400 == 0)
  match month with
  | 2 => if leap then 29 else 28
  | 4 | 6 | 9 | 11 => 30
  | _ => 31

/-- The text behind a date. -/
def skipDate (cs : List Char) : Option (List Char) := do
  let (year, cs) ← readField 4 0 9999 cs
  let cs ← readMark '-' cs
  let (month, cs) ← readField 2 1 12 cs
  let cs ← readMark '-' cs
  let (_, cs) ← readField 2 1 (daysOf year month) cs
  return cs

/-- The text behind a time of day. -/
def skipTime (cs : List Char) : Option (List Char) := do
  let (_, cs) ← readField 2 0 23 cs
  let cs ← readMark ':' cs
  let (_, cs) ← readField 2 0 59 cs
  let cs ← readMark ':' cs
  let (_, cs) ← readField 2 0 60 cs
  match cs with
  | '.' :: more =>
      let rest := more.dropWhile Char.isDigit
      return if rest.length < more.length then rest else cs
  | _ => return cs

/-- The text behind an offset from universal time. -/
def skipOffset (cs : List Char) : Option (List Char) :=
  match cs with
  | 'Z' :: rest | 'z' :: rest => some rest
  | '+' :: rest | '-' :: rest => do
      let (_, rest) ← readField 2 0 23 rest
      let rest ← readMark ':' rest
      let (_, rest) ← readField 2 0 59 rest
      return rest
  | _ => none

/-- The text behind the time that follows a date. -/
def skipTimeOfDate (cs : List Char) : Option (List Char) := do
  let rest ←
    match cs with
    | 'T' :: rest | 't' :: rest | ' ' :: rest => some rest
    | _ => none
  let rest ← skipTime rest
  return (skipOffset rest).getD rest

/-- A date, a time, or both. -/
def readDateTime (cs : List Char) : Option (Node × List Char) := do
  let rest ←
    match skipDate cs with
    | some rest => some ((skipTimeOfDate rest).getD rest)
    | none => skipTime cs
  return (.dateTime (consumed cs rest), rest)

end SqlMapper.Toml
