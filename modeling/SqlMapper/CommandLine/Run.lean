import SqlMapper.CommandLine.Help
import SqlMapper.CommandLine.Report
import SqlMapper.Configuration.File
import SqlMapper.Json.Reader
import SqlMapper.Session.Binding

/-!
# Running a command line

What the program prints and how it ends, given its arguments, the
environment, and an operation that reads files. What was reported before a
failure stays reported.

## Main definitions

* `Outcome` — the printed text and the exit code.
* `run` — the outcome of a command line.
-/

namespace SqlMapper.CommandLine

/-! ## Outcomes -/

/-- What a run prints, and its exit code. -/
structure Outcome where
  code : Nat
  output : String := ""
  errors : String := ""
  deriving DecidableEq, Repr

/-- The outcome of a run that prints the lines. -/
def Outcome.success (lines : List String) : Outcome :=
  { code := 0, output := Text.ofLines lines }

/-- Why a command failed. -/
inductive Failure where
  | fault (cause : Fault)
  /-- The configuration file itself cannot be loaded. -/
  | configuration (path : String) (cause : Fault)
  /-- No configuration file is given, and there is no place to look. -/
  | noConfiguration
  /-- The parameter is no JSON document. -/
  | invalidParams

/-- The wording of a fault with the wording of the cause behind it. -/
def faultChain (fault : Fault) : String :=
  match fault with
  | .file cause => s!"{fault.message}: {cause.text}"
  | _ => fault.message

/-- The wording of a failure. -/
def Failure.text : Failure → String
  | fault cause => faultChain cause
  | configuration path cause => s!"Failed to load {path}: {faultChain cause}"
  | noConfiguration => "No configuration file given and no config directory found"
  | invalidParams => "Invalid --params JSON: the text is not a JSON document"

/-- The exit code of a failure. A template whose scan breaks off is not
reported like other faults: it ends the run with a code of its own. -/
def Failure.code : Failure → Nat
  | fault (.builder (.brokenEscape _)) => 101
  | _ => 1

/-- The outcome of a run that fails after it printed the lines. -/
def Outcome.failure (failure : Failure) (lines : List String := []) : Outcome :=
  { code := failure.code, output := Text.ofLines lines, errors := s!"Error: {failure.text}\n" }

/-- The outcome of a command line that is not understood. -/
def Outcome.misuse (cause : UsageFault) : Outcome :=
  { code := 2, errors := s!"error: {cause.text}\n" }

/-! ## The configuration file -/

/-- The directory for configuration files: the one that the environment
names by a path from the root, or else the usual place under the home
directory. -/
def configurationDirectory? (environment : Environment) : Option String :=
  let named := (environment "XDG_CONFIG_HOME").filter fun path =>
    Text.startsWith ['/'] path.toList
  let home := (environment "HOME").filter fun path => !path.isEmpty
  named.or (home.map fun home => FilePath.join home ".config")

/-- The configuration file to use where none is given. -/
def defaultPath? (environment : Environment) : Option String :=
  (configurationDirectory? environment).map fun directory =>
    FilePath.join (FilePath.join directory programName) (programName ++ ".toml")

variable {m : Type → Type} [Monad m] (readFile : String → m (Except FileFault String))
  (environment : Environment)

/-- Loads the configuration of the given file, or of the default one;
answers with the path of the file too. Mapper files lie beside it. -/
def loadConfiguration (path : Option String) : ExceptT Failure m (String × Configuration) := do
  match path.or (defaultPath? environment) with
  | none => throw .noConfiguration
  | some path =>
      let file ← ExceptT.adapt (Failure.configuration path) (ConfigurationFile.load readFile path)
      let base := (FilePath.parent? path).getD "."
      let config ← ExceptT.adapt Failure.fault (file.build readFile base)
      return (path, config)

/-! ## Commands -/

/-- Compiles a template under default settings. -/
def runCompile (template : String) (placeholder : Placeholder) : Outcome :=
  match ({} : TypeSystem).compile { placeholder } template none with
  | .ok compiled => .success (sqlReport compiled)
  | .error cause => .failure (.fault cause)

/-- Lists the statements of a configuration. -/
def runCheck (path : Option String) : m Outcome := do
  match ← loadConfiguration readFile environment path with
  | .error failure => return .failure failure
  | .ok (path, config) => return .success (statementsReport path config)

/-- Shows a statement of a configuration with the values that it sends for a
parameter. -/
def explain (config : Configuration) (id params : String) : Outcome :=
  match config.statements.get id, Json.parse params with
  | .error cause, _ => .failure (.fault cause)
  | .ok _, none => .failure .invalidParams
  | .ok statement, some document =>
      let report := statementReport statement
      match statement.sql.bind config.types (Value.ofJson document) with
      | .error cause => .failure (.fault cause) report
      | .ok values => .success (report ++ boundReport values)

/-- Explains a statement of the configuration of a file. -/
def runExplain (id : String) (path : Option String) (params : String) : m Outcome := do
  match ← loadConfiguration readFile environment path with
  | .error failure => return .failure failure
  | .ok (_, config) => return explain config id params

/-- The outcome of a command line. -/
def run (arguments : List String) : m Outcome :=
  match Invocation.ofArguments environment arguments with
  | .misuse cause => return .misuse cause
  | .help topic => return { code := 0, output := helpText environment topic }
  | .version => return .success [versionText]
  | .request (.compile template placeholder) => return runCompile template placeholder
  | .request (.check path) => runCheck readFile environment path
  | .request (.explain id path params) => runExplain readFile environment id path params

end SqlMapper.CommandLine
