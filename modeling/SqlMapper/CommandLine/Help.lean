import SqlMapper.CommandLine.Invocation
import SqlMapper.Text.Controls
import SqlMapper.Text.Numeral
import SqlMapper.Text.Segments

/-!
# Help texts

A help text says what a command is for, how it is used, and what its
operands and options mean. The meanings stand in a column beside the names.
The names are in bold for a terminal; the value of an environment variable
that is shown may bring controls of its own, and those too are left out
where no terminal reads the text.

## Main definitions

* `helpLines` — the lines for a terminal, for a command or for the program.
* `helpText` — the same without controls.
* `versionText` — the name and the version of the program.
-/

namespace SqlMapper.CommandLine

/-! ## Tables -/

/-- A name and what it means. -/
structure HelpEntry where
  name : String
  meaning : String
  deriving DecidableEq, Repr

/-- The width of the longest name, and at least two. -/
def nameWidth (entries : List HelpEntry) : Nat :=
  entries.foldl (fun width entry => max width entry.name.length) 2

/-- The text in bold. -/
def bold (s : String) : String := "\x1b[1m" ++ s ++ "\x1b[0m"

/-- The line of an entry in a table whose names are `width` wide. A meaning
of several lines stays in its column. -/
def HelpEntry.line (width : Nat) (entry : HelpEntry) : String :=
  let padding := Text.padEnd (width - entry.name.length) ""
  let margin := Text.padEnd (width + 4) ""
  let meaning := ("\n" ++ margin).intercalate (Text.split '\n' entry.meaning)
  "  " ++ bold entry.name ++ padding ++ "  " ++ meaning

/-- The lines of a table. -/
def tableLines (entries : List HelpEntry) : List String :=
  entries.map (HelpEntry.line (nameWidth entries))

/-- A table under a heading, with an empty line in front; no entries, no
table. -/
def tableSection (heading : String) (entries : List HelpEntry) : List String :=
  if entries.isEmpty then [] else ["", heading ++ ":"] ++ tableLines entries

/-! ## Operands and options -/

/-- An operand as usage lines show it. -/
def Operand.usage (operand : Operand) : String :=
  let name := if operand.required then s!"<{operand.label}>" else s!"[{operand.label}]"
  if operand.many then name ++ "..." else name

/-- The entry of an operand. -/
def Operand.helpEntry (operand : Operand) : HelpEntry :=
  { name := operand.usage, meaning := operand.about }

/-- What is known about the value of an option, in brackets. -/
def OptionValue.remarks (value : OptionValue) (environment : Environment) : List String :=
  let remark (label text : String) := s!"[{label}: {text}]"
  let present := value.environment.map fun name =>
    remark "env" (name ++ "=" ++ (environment name).getD "")
  let fallback := value.fallback.map (remark "default")
  let names :=
    match value.kind with
    | .oneOf names => some (remark "possible values" (", ".intercalate names))
    | _ => none
  [present, fallback, names].filterMap id

/-- The entry of an option. -/
def CommandOption.helpEntry (environment : Environment) (option : CommandOption) : HelpEntry :=
  let short := String.ofList ['-', option.short]
  let words := s!"{short}, --{option.long}"
  match option.kind with
  | .valued value =>
      { name := s!"{words} <{value.label}>"
        meaning := " ".intercalate (option.about :: value.remarks environment) }
  | _ => { name := words, meaning := option.about }

/-! ## Texts -/

/-- The usage line of a command. -/
def Command.usage (command : Command) : String :=
  let options := if command.options.isEmpty then [] else ["[OPTIONS]"]
  let words := [programName, command.name] ++ options ++ command.operands.map Operand.usage
  "Usage: " ++ " ".intercalate words

/-- The help lines of a command. -/
def Command.helpLines (environment : Environment) (command : Command) : List String :=
  [command.about, "", command.usage]
    ++ tableSection "Arguments" (command.operands.map Operand.helpEntry)
    ++ tableSection "Options" (command.options.map (CommandOption.helpEntry environment))

/-- The help lines of the program. -/
def programHelpLines (environment : Environment) : List String :=
  [programAbout, "", s!"Usage: {programName} [OPTIONS] <COMMAND>"]
    ++ tableSection "Commands"
        (Subcommand.all.map fun subcommand =>
          { name := subcommand.command.name, meaning := subcommand.command.about })
    ++ tableSection "Options" (programOptions.map (CommandOption.helpEntry environment))
    ++ ["", "EXAMPLES:"] ++ programExamples.map ("    " ++ ·)

/-- The help lines of a command, or of the program. -/
def helpLines (environment : Environment) : Option Subcommand → List String
  | none => programHelpLines environment
  | some subcommand => subcommand.command.helpLines environment

/-- The help text of a command, or of the program, without controls. -/
def helpText (environment : Environment) (topic : Option Subcommand) : String :=
  Text.Controls.strip (Text.ofLines (helpLines environment topic))

/-- The name and the version of the program. -/
def versionText : String := programName ++ " " ++ programVersion

end SqlMapper.CommandLine
