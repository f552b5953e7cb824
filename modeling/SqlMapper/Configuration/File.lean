import SqlMapper.Configuration.FilePath
import SqlMapper.Configuration.MapperFile

/-!
# Configuration files

A configuration file is a TOML document with settings, the paths of mapper
files, and maybe a database. A configuration is built from it by loading the
mapper files in order.

Reading a file is not done here: the functions take it as an operation of a
monad, so that the same code runs on a real file system and on given
contents.

## Main definitions

* `ConfigurationFile.parse` — reads the document.
* `ConfigurationFile.build` — the configuration of a file.
-/

namespace SqlMapper

/-! ## The document -/

/-- Where the database is. -/
structure DatabaseSettings where
  url : String
  maxConnections : Nat
  deriving DecidableEq, Repr

/-- What a configuration file says. -/
structure ConfigurationFile where
  settings : Settings
  /-- The paths of mapper files. -/
  mappers : List String
  database : Option DatabaseSettings
  deriving DecidableEq, Repr

open Toml (View Record)

/-- A form of placeholders in a document. -/
def Placeholder.view (node : Toml.Node) : Option Placeholder := do
  let name ← View.name ["question", "dollar"] node
  return if name = "dollar" then .dollar else .question

/-- The settings in a document. -/
def Settings.view (node : Toml.Node) : Option Settings := do
  let r ← View.record
    ["map_underscore_to_camel_case", "call_setters_on_nulls", "auto_mapping", "placeholder",
     "open_token", "close_token", "shrink_whitespaces_in_sql"] node
  let d : Settings := {}
  return {
    mapUnderscoreToCamelCase :=
      ← r.withDefault View.bool "map_underscore_to_camel_case" d.mapUnderscoreToCamelCase
    callSettersOnNulls := ← r.withDefault View.bool "call_setters_on_nulls" d.callSettersOnNulls
    autoMapping := ← r.withDefault View.bool "auto_mapping" d.autoMapping
    placeholder := ← r.withDefault Placeholder.view "placeholder" d.placeholder
    openToken := ← r.withDefault View.string "open_token" d.openToken
    closeToken := ← r.withDefault View.string "close_token" d.closeToken
    shrinkWhitespace := ← r.withDefault View.bool "shrink_whitespaces_in_sql" d.shrinkWhitespace }

/-- The number of connections where none is given. -/
def DatabaseSettings.defaultConnections : Nat := 5

/-- The database in a document. -/
def DatabaseSettings.view (node : Toml.Node) : Option DatabaseSettings := do
  let r ← View.record ["url", "max_connections"] node
  return {
    url := ← r.required View.string "url"
    maxConnections :=
      ← r.withDefault (View.below 0x100000000) "max_connections" defaultConnections }

namespace ConfigurationFile

/-- The configuration file in a document. -/
def view (document : Toml.Table) : Option ConfigurationFile := do
  let r : Record := { fields := document, positional := false }
  return {
    settings := ← r.withDefault Settings.view "settings" {}
    mappers := ← r.withDefault (View.list View.string) "mappers" []
    database := ← r.optional DatabaseSettings.view "database" }

/-- Reads a configuration file; `resource` names it in faults. -/
def parse (content : String) (resource : Option String := none) :
    Except Fault ConfigurationFile :=
  match (Toml.parse content).bind view with
  | some file => .ok file
  | none => .error (.configuration resource unreadableDocument)

/-! ## Files -/

variable {m : Type → Type} [Monad m] (readFile : String → m (Except FileFault String))

/-- The content of a file. -/
def contentOf (path : String) : ExceptT Fault m String := do
  match ← (readFile path : m _) with
  | .ok content => return content
  | .error cause => throw (.file cause)

/-- Reads the configuration file at a path. -/
def load (path : String) : ExceptT Fault m ConfigurationFile := do
  let content ← contentOf readFile path
  ExceptT.mk (pure (parse content (some path)))

/-- Loads the mapper file at a path into a configuration. -/
def loadMapperFile (config : Configuration) (path : String) : ExceptT Fault m Configuration := do
  let content ← contentOf readFile path
  match (Configuration.loadMapper content path).run config with
  | (.ok (), config) => return config
  | (.error fault, _) => throw fault

/-- The configuration of a file whose mapper files lie under `base`. -/
def build (file : ConfigurationFile) (base : String) : ExceptT Fault m Configuration :=
  file.mappers.foldlM
    (fun config mapper => loadMapperFile readFile config (FilePath.join base mapper))
    { settings := file.settings }

end ConfigurationFile

end SqlMapper
