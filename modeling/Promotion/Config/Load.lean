import Promotion.Config.Record
import Promotion.Config.Tree
import Promotion.Config.VariablesFile
import Promotion.FileTree
import Promotion.Json.Parser
import Promotion.Toml.Document

/-!
# Loading a configuration

The configuration of a service is what several sources say, each laid over the ones before it: the
service's own name and environment, a file of defaults, a file for the environment, a file for the
service, and variables. A file that is not there says nothing; a file that cannot be read refuses
the configuration.

A file of variables beside the program is read before anything else.
-/

namespace Promotion

/-- What a program finds around it. -/
structure Surroundings where
  /-- The text of the file that a path leads to. -/
  file? : String → Option String
  vars : Variables

namespace Surroundings

/-- The file that may hold more variables. -/
def variablesFile : String := ".env"

/-- The same surroundings with the variables of the file beside the program. -/
def withVariablesFile (around : Surroundings) : Surroundings :=
  match around.file? variablesFile with
  | some text => { around with vars := around.vars.withFile text }
  | none => around

end Surroundings

/-! ## Files -/

inductive ConfigFormat where
  | toml
  | json
deriving DecidableEq, Repr

namespace ConfigFormat

/-- The formats in the order in which they are looked for. -/
def all : List ConfigFormat :=
  [toml, json]

def extension : ConfigFormat → String
  | toml => "toml"
  | json => "json"

/-- The keys of a text with their values; none where the text cannot be read. -/
def read? : ConfigFormat → String → Option (Dict ConfigValue)
  | toml, text => Toml.read? text
  | json, text => (Json.parse text).bind fun json => (ConfigValue.ofJson json).members?

end ConfigFormat

namespace AppConfig

def environmentOf (vars : Variables) : String :=
  (vars.get? "PROMO_ENV").getD "development"

def directoryOf (vars : Variables) : String :=
  (vars.get? "CONFIG_DIR").getD "config"

/-- The configuration files of a service, later ones laid over earlier ones. -/
def configFiles (service : String) (vars : Variables) : List String :=
  ["default", environmentOf vars, service].map fun name =>
    FilePath.join (directoryOf vars) (name ++ ".toml")

/-- The same path with the extension of a format added. -/
def extended (path : String) (format : ConfigFormat) : String :=
  path ++ "." ++ format.extension

/-- The text of a configuration file and its format, which its extension decides. Where there is no
such file, one whose name has an extension more stands for it. -/
def findFile? (around : Surroundings) (path : String) : Option (ConfigFormat × String) :=
  match around.file? path with
  | some text =>
    (ConfigFormat.all.find? fun format => FilePath.extension? path = some format.extension).map
      fun format => (format, text)
  | none =>
    ConfigFormat.all.findSome? fun format =>
      (around.file? (extended path format)).map fun text => (format, text)

/-- What a file says, which the mark of the byte order may precede. -/
def fileEntries (around : Surroundings) (path : String) : Except ConfigError (Dict ConfigValue) :=
  match findFile? around path with
  | none => .ok []
  | some (format, text) =>
    match format.read? (String.ofList (Text.withoutMark text.toList)) with
    | some entries => .ok entries
    | none => .error .unreadable

/-! ## Sources -/

/-- What all sources say, in the order in which they are laid over one another. -/
def sources (service : String) (around : Surroundings) :
    Except ConfigError (List (List (String × ConfigValue))) := do
  let files ← (configFiles service around.vars).mapM (fileEntries around)
  let start :=
    [("service_name", .text service), ("environment", .text (environmentOf around.vars))]
  .ok (start :: files ++ [around.vars.entries])

def tree (service : String) (around : Surroundings) : Except ConfigError ConfigValue :=
  (sources service around).map fun sources => sources.foldl ConfigValue.withEntries (.table [])

/-- The configuration of a service, with its currencies normalized and its credentials checked. -/
def load (service : String) (around : Surroundings) : Except ConfigError AppConfig := do
  let tree ← tree service around.withVariablesFile
  match tree.app? with
  | none => .error .unreadable
  | some config => do
    let engine := config.promotion.engine.normalized
    engine.validate
    .ok { config with promotion := { config.promotion with engine } }

end AppConfig

end Promotion
