import SqlMapper.Template.Scan
import SqlMapper.Text.Numeral

/-!
# Settings

What a configuration leaves open: the form of placeholders, the markers of
tokens, and how rows are mapped.
-/

namespace SqlMapper

/-- The form of the placeholders in compiled SQL. -/
inductive Placeholder where
  | question
  /-- A dollar sign and the number of the parameter. -/
  | dollar
  deriving DecidableEq, Repr, Inhabited

/-- The placeholder of the parameter at a position, counted from one. -/
def Placeholder.render (placeholder : Placeholder) (position : Nat) : String :=
  match placeholder with
  | question => "?"
  | dollar => "$" ++ Text.decimal position

/-- The settings of a configuration. -/
structure Settings where
  /-- Underscores in column names do not count when properties are found. -/
  mapUnderscoreToCamelCase : Bool := false
  /-- Absent values are written to properties that can hold them. -/
  callSettersOnNulls : Bool := false
  /-- Columns without a mapping find their property by name. -/
  autoMapping : Bool := true
  placeholder : Placeholder := .question
  openToken : String := "#\x7b"
  closeToken : String := "\x7d"
  /-- Runs of blanks in compiled SQL become one space. -/
  shrinkWhitespace : Bool := false
  deriving DecidableEq, Repr, Inhabited

/-- The markers of tokens in templates. -/
def Settings.markers (settings : Settings) : Markers :=
  { opening := settings.openToken.toList, closing := settings.closeToken.toList }

end SqlMapper
