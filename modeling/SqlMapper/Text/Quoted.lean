import SqlMapper.Text.LetterCase
import SqlMapper.Text.PrintTable

/-!
# Quoted text: a text between double quotes with escapes

How a text is shown inside an error message: between double quotes, with a
backslash escape for the double quote, the backslash and the common
controls, and a code in braces for every character that would not show as
itself. A single quote stands for itself.
-/

namespace SqlMapper.Text.Quoted

/-- The escape of a character that has no visible form of its own: its code
in lower-case hexadecimal. -/
def code (c : Char) : List Char :=
  ['\\', 'u', '\x7b'] ++ (Nat.toDigits 16 c.toNat) ++ ['\x7d']

/-- The character shows as itself. -/
def isPlain (c : Char) : Bool :=
  !inRanges PrintTable.graphemeExtend c.toNat && !inRanges PrintTable.invisible c.toNat

/-- The written form of one character. -/
def writeChar (c : Char) : List Char :=
  match c with
  | '\x00' => ['\\', '0']
  | '\t' => ['\\', 't']
  | '\r' => ['\\', 'r']
  | '\n' => ['\\', 'n']
  | '"' => ['\\', '"']
  | '\\' => ['\\', '\\']
  | c => if isPlain c then [c] else code c

/-- The text between double quotes. -/
def write (s : String) : String :=
  String.ofList ('"' :: s.toList.flatMap writeChar ++ ['"'])

end SqlMapper.Text.Quoted
