import SqlMapper.Association

/-!
# Commands: what can stand on the command line

The commands of the program as data. The reader of arguments and the help
texts both work from this description, so that neither can know an option
that the other does not.

## Main definitions

* `Command` — a command with its operands and options.
* `Subcommand` — the commands there are; `Subcommand.command` describes each.
-/

namespace SqlMapper.CommandLine

/-! ## Descriptions -/

/-- The texts that an operand or an option accepts. -/
inductive ValueKind where
  | text
  /-- Any text but the empty one. -/
  | path
  | oneOf (names : List String)
  deriving DecidableEq, Repr

/-- The text is accepted. -/
def ValueKind.accepts (value : String) : ValueKind → Bool
  | text => true
  | path => !value.isEmpty
  | oneOf names => names.contains value

/-- The value that an option takes. -/
structure OptionValue where
  /-- What stands for the value in help texts. -/
  label : String
  kind : ValueKind := .text
  /-- The environment variable that gives the value where the option is
  absent. -/
  environment : Option String := none
  /-- The value where neither the option nor the variable gives one. -/
  fallback : Option String := none
  deriving DecidableEq, Repr

/-- What an option does. -/
inductive OptionKind where
  | flag
  | valued (value : OptionValue)
  /-- Shows the help text. -/
  | help
  /-- Shows the version. -/
  | version
  deriving DecidableEq, Repr

/-- An option, known by a letter and by a word. -/
structure CommandOption where
  short : Char
  long : String
  kind : OptionKind
  about : String
  deriving DecidableEq, Repr

/-- An argument that is known by its position. -/
structure Operand where
  label : String
  about : String
  kind : ValueKind := .text
  required : Bool := true
  /-- Any number of arguments may stand here. -/
  many : Bool := false
  deriving DecidableEq, Repr

/-- A command. Its options are listed as help texts show them. -/
structure Command where
  name : String
  about : String
  operands : List Operand := []
  options : List CommandOption := []
  deriving DecidableEq, Repr

/-! ## Options -/

/-- The option that every command knows and that asks for the log. -/
def verboseOption : CommandOption :=
  { short := 'v', long := "verbose", kind := .flag,
    about := "Log at debug level (overrides SQLBIND_LOG)" }

/-- The option that asks for the help text. -/
def helpOption : CommandOption :=
  { short := 'h', long := "help", kind := .help, about := "Print help" }

/-- The option that asks for the version. -/
def versionOption : CommandOption :=
  { short := 'V', long := "version", kind := .version, about := "Print version" }

/-- The form of placeholders. -/
def placeholderOption : CommandOption :=
  { short := 'p', long := "placeholder",
    kind := .valued {
      label := "PLACEHOLDER", kind := .oneOf ["question", "dollar"], fallback := some "question" }
    about := "Placeholder style of the compiled SQL" }

/-- The configuration file. -/
def configOption : CommandOption :=
  { short := 'c', long := "config",
    kind := .valued { label := "CONFIG", kind := .path, environment := some "SQLBIND_CONFIG" }
    about := "Configuration file" }

/-- The parameter of a statement. -/
def paramsOption : CommandOption :=
  { short := 'p', long := "params",
    kind := .valued { label := "PARAMS", fallback := some "null" }
    about := "Parameter object as JSON" }

/-! ## Commands -/

/-- The commands there are. -/
inductive Subcommand where
  | compile
  | check
  | explain
  | help
  deriving DecidableEq, Repr

namespace Subcommand

/-- All commands in the order of the help text. -/
def all : List Subcommand := [compile, check, explain, help]

/-- The description of a command. -/
def command : Subcommand → Command
  | compile => {
      name := "compile"
      about := "Compile a template and show its parameter mappings"
      operands := [{ label := "TEMPLATE", about := "The SQL template" }]
      options := [placeholderOption, verboseOption, helpOption] }
  | check => {
      name := "check"
      about := "Load a configuration and list its statements"
      operands := [{
        label := "CONFIG", kind := .path, required := false
        about := "Configuration file (defaults to <config dir>/sqlbind/sqlbind.toml)" }]
      options := [verboseOption, helpOption] }
  | explain => {
      name := "explain"
      about := "Show the compiled SQL and bound values of one statement"
      operands := [{ label := "ID", about := "Statement id, e.g. blog.findById" }]
      options := [configOption, verboseOption, paramsOption, helpOption] }
  | help => {
      name := "help"
      about := "Print this message or the help of the given subcommand(s)"
      operands := [{
        label := "COMMAND", required := false, many := true
        about := "Print help for the subcommand(s)" }] }

/-- The command of the given name. -/
def ofName? (name : String) : Option Subcommand :=
  all.find? fun subcommand => subcommand.command.name = name

/-- Every command is found under its own name. -/
theorem ofName?_name (subcommand : Subcommand) :
    ofName? subcommand.command.name = some subcommand := by
  cases subcommand <;> decide

end Subcommand

/-! ## The program -/

/-- The name of the program. -/
def programName : String := "sqlbind"

/-- The version of the program. -/
def programVersion : String := "0.1.0"

/-- What the program is for. -/
def programAbout : String := "Compile SQL templates and inspect mapper configurations"

/-- The options that stand in front of a command. -/
def programOptions : List CommandOption := [verboseOption, helpOption, versionOption]

/-- Commands that show what the program can do. -/
def programExamples : List String :=
  ["sqlbind compile 'select * from blog where id = #\x7bid\x7d'",
   "sqlbind compile 'update blog set title = #\x7btitle\x7d where id = #\x7bid\x7d' --placeholder dollar",
   "sqlbind check sqlbind.toml",
   "sqlbind explain blog.findById --params '\x7b\"id\": 7\x7d'"]

end SqlMapper.CommandLine
