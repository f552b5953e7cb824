import SqlMapper.CommandLine.Arguments
import SqlMapper.Configuration.Settings

/-!
# Invocations: what a command line asks for

The arguments of the program as a request with all its parts settled: where
an option is absent, its environment variable gives the value, and after
that its fallback.

## Main definitions

* `Request` — what the program can do.
* `Invocation.ofArguments` — what the arguments ask for.
-/

namespace SqlMapper.CommandLine

/-- The values of environment variables. -/
abbrev Environment := String → Option String

/-- What the program can do. -/
inductive Request where
  | compile (template : String) (placeholder : Placeholder)
  | check (config : Option String)
  | explain (id : String) (config : Option String) (params : String)
  deriving DecidableEq, Repr

/-- What a command line asks for. -/
inductive Invocation where
  | request (request : Request)
  /-- The help text of a command, or of the program. -/
  | help (topic : Option Subcommand)
  | version
  | misuse (cause : UsageFault)
  deriving DecidableEq, Repr

/-! ## Settling values -/

namespace Given

/-- The first operand, which must be there. -/
def requiredOperand (given : Given) (command : Command) : Except UsageFault String :=
  match given.operands, command.operands with
  | operand :: _, _ => .ok operand
  | [], operand :: _ => .error (.missingOperand operand.label)
  | [], [] => .error (.missingOperand command.name)

/-- The value of an option: the given one, or else that of its environment
variable, or else its fallback. -/
def settled (given : Given) (environment : Environment) (option : CommandOption) :
    Except UsageFault (Option String) :=
  match given.options.find? option.long, option.kind with
  | some text, _ => .ok (some text)
  | none, .valued value =>
      match value.environment.bind environment with
      | some text =>
          if value.kind.accepts text then .ok (some text)
          else .error (.invalidValue option.long text)
      | none => .ok value.fallback
  | none, _ => .ok none

end Given

/-- The form of placeholders that an option value names. -/
def placeholderNamed (name : String) : Placeholder :=
  if name = "dollar" then .dollar else .question

/-- The request of a command with its operands and options. -/
def Request.ofGiven (environment : Environment) (given : Given) :
    Subcommand → Except UsageFault (Option Request)
  | .compile => do
      let placeholder ← given.settled environment placeholderOption
      let template ← given.requiredOperand Subcommand.compile.command
      return some (compile template (placeholderNamed (placeholder.getD "")))
  | .check => return some (check given.operands.head?)
  | .explain => do
      let config ← given.settled environment configOption
      let params ← given.settled environment paramsOption
      let id ← given.requiredOperand Subcommand.explain.command
      return some (explain id config (params.getD ""))
  | .help => return none

/-! ## The command line -/

namespace Invocation

/-- What a stopped reading asks for. -/
def ofStop (topic : Option Subcommand) : Stop → Invocation
  | .help => help topic
  | .version => version
  | .fault cause => misuse cause

/-- The help text that the words behind the help command name. -/
def ofTopic : List String → Invocation
  | [] => help none
  | name :: others =>
      match Subcommand.ofName? name, others with
      | none, _ => misuse (.unknownCommand name)
      | some subcommand, [] => help (some subcommand)
      | some _, other :: _ => misuse (.unknownCommand other)

/-- What the arguments behind the name of a command ask for. -/
def ofCommand (environment : Environment) (subcommand : Subcommand) (arguments : List String) :
    Invocation :=
  let command := subcommand.command
  match readArguments command.options command.operands {} arguments with
  | .error stop => ofStop (some subcommand) stop
  | .ok (_, argument :: _) => misuse (.unexpectedArgument argument)
  | .ok (given, []) =>
      match Request.ofGiven environment given subcommand with
      | .error cause => misuse cause
      | .ok none => help none
      | .ok (some asked) => request asked

/-- What the arguments of the program ask for. -/
def ofArguments (environment : Environment) (arguments : List String) : Invocation :=
  match readArguments programOptions [] {} arguments with
  | .error stop => ofStop none stop
  | .ok (_, []) => misuse .missingCommand
  | .ok (_, name :: arguments) =>
      match Subcommand.ofName? name with
      | none => misuse (.unknownCommand name)
      | some .help => ofTopic arguments
      | some subcommand => ofCommand environment subcommand arguments

end Invocation

end SqlMapper.CommandLine
