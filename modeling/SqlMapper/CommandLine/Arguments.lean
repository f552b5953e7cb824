import SqlMapper.CommandLine.Command
import SqlMapper.Text.Segments

/-!
# Arguments: reading the command line

Options may stand before and behind operands. A value follows its option as
the next argument, behind an equals sign, or right behind the letter; an
argument that starts like an option is no value unless it is attached. Two
dashes end the options. Every option can be given once.

Reading stops at the first fault, and at an option that asks for help or for
the version, whatever comes behind.

## Main definitions

* `Given` — the operands and options that were read.
* `readArguments` — reads arguments for given options and operands.
-/

namespace SqlMapper.CommandLine

/-! ## Faults -/

/-- Why a command line cannot be understood. -/
inductive UsageFault where
  | unknownOption (text : String)
  | unexpectedArgument (text : String)
  | missingValue (option : String)
  | unexpectedValue (option : String)
  | invalidValue (argument value : String)
  | repeatedOption (option : String)
  | missingOperand (label : String)
  | missingCommand
  | unknownCommand (name : String)
  deriving DecidableEq, Repr

/-- The wording of a fault. -/
def UsageFault.text : UsageFault → String
  | unknownOption text => s!"unexpected argument '{text}' found"
  | unexpectedArgument text => s!"unexpected argument '{text}' found"
  | missingValue option => s!"a value is required for '--{option}' but none was supplied"
  | unexpectedValue option => s!"unexpected value for '--{option}' found; no more were expected"
  | invalidValue argument value => s!"invalid value '{value}' for '{argument}'"
  | repeatedOption option => s!"the argument '--{option}' cannot be used multiple times"
  | missingOperand label =>
      s!"the following required arguments were not provided: <{label}>"
  | missingCommand => s!"'{programName}' requires a subcommand but one was not provided"
  | unknownCommand name => s!"unrecognized subcommand '{name}'"

/-- Why reading ended before the end of the arguments. -/
inductive Stop where
  | help
  | version
  | fault (cause : UsageFault)
  deriving DecidableEq, Repr

/-! ## What was read -/

/-- The operands in order, and the options by their word. A flag has an
empty value. -/
structure Given where
  operands : List String := []
  options : Entries String := []
  deriving DecidableEq, Repr

namespace Given

/-- Adds an option with its value. -/
def addOption (given : Given) (option : CommandOption) (value : String) : Except Stop Given :=
  if given.options.has option.long then .error (.fault (.repeatedOption option.long))
  else .ok { given with options := given.options.put option.long value }

/-- Adds an option that takes a value. -/
def addValue (given : Given) (option : CommandOption) (kind : ValueKind) (value : String) :
    Except Stop Given :=
  if kind.accepts value then given.addOption option value
  else .error (.fault (.invalidValue option.long value))

/-- Adds an operand. -/
def addOperand (given : Given) (operand : Operand) (value : String) : Except Stop Given :=
  if operand.kind.accepts value then .ok { given with operands := given.operands ++ [value] }
  else .error (.fault (.invalidValue operand.label value))

end Given

/-! ## Options -/

/-- An option that waits for its value, with the texts it accepts. -/
abbrev Waiting := Option (CommandOption × ValueKind)

/-- The argument looks like an option. A dash alone does not. -/
def isOptionLike (argument : String) : Bool :=
  match argument.toList with
  | '-' :: _ :: _ => true
  | _ => false

/-- Takes an option with the value attached to it, if there is one. -/
def takeOption (given : Given) (option : CommandOption) (attached : Option String) :
    Except Stop (Given × Waiting) :=
  match option.kind, attached with
  | .valued value, some text => do return (← given.addValue option value.kind text, none)
  | .valued value, none => .ok (given, some (option, value.kind))
  | _, some _ => .error (.fault (.unexpectedValue option.long))
  | .flag, none => do return (← given.addOption option "", none)
  | .help, none => .error .help
  | .version, none => .error .version

variable (options : List CommandOption)

/-- Takes an option written as a word, maybe with an equals sign and a
value. -/
def takeLong (given : Given) (word : List Char) : Except Stop (Given × Waiting) :=
  let (name, attached) :=
    match Text.cutFirst '=' word with
    | some (name, value) => (String.ofList name, some (String.ofList value))
    | none => (String.ofList word, none)
  match options.find? fun option => option.long = name with
  | some option => takeOption given option attached
  | none => .error (.fault (.unknownOption ("--" ++ name)))

/-- Takes options written as letters. The text behind the letter of an option
with a value is the value. -/
def takeShort (given : Given) : List Char → Except Stop (Given × Waiting)
  | [] => .ok (given, none)
  | letter :: letters =>
      match options.find? fun option => option.short = letter with
      | none => .error (.fault (.unknownOption (String.ofList ['-', letter])))
      | some option =>
          match option.kind, letters with
          | .valued _, [] => takeOption given option none
          | .valued _, '=' :: value | .valued _, value =>
              takeOption given option (some (String.ofList value))
          | _, _ => do
              let (given, _) ← takeOption given option none
              takeShort given letters

/-! ## Arguments -/

/-- Reads arguments up to the first operand for which there is no place;
answers with what was read and the arguments from that operand on. -/
def readArguments : List Operand → Given → List String → Except Stop (Given × List String)
  | _, given, [] => .ok (given, [])
  | operands, given, argument :: rest =>
      match argument.toList with
      | ['-', '-'] =>
          if rest.length ≤ operands.length then do
            let given ← (operands.zip rest).foldlM
              (fun given (operand, value) => given.addOperand operand value) given
            return (given, [])
          else .ok (given, argument :: rest)
      | '-' :: c :: cs => do
          let (given, waiting) ←
            if c = '-' then takeLong options given cs else takeShort options given (c :: cs)
          match waiting, rest with
          | none, rest => readArguments operands given rest
          | some (option, _), [] => throw (.fault (.missingValue option.long))
          | some (option, kind), value :: rest =>
              if isOptionLike value then throw (.fault (.missingValue option.long))
              else readArguments operands (← given.addValue option kind value) rest
      | _ =>
          match operands with
          | [] => .ok (given, argument :: rest)
          | operand :: operands => do
              readArguments operands (← given.addOperand operand argument) rest

end SqlMapper.CommandLine
