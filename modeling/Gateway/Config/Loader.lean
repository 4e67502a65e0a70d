import Gateway.Config.Dotenv
import Gateway.Config.Files
import Gateway.Config.Section
import Gateway.Json.Reader
import Gateway.Text.Case
import Gateway.Toml.Reader

namespace Gateway

inductive ConfigFormat where
  | toml
  | json
  deriving DecidableEq, Repr

namespace ConfigFormat

def ofName? (name : String) : Option ConfigFormat :=
  if name = "toml" then some toml else if name = "json" then some json else none

def read (format : ConfigFormat) (text : String) : Except ConfigError Config :=
  match format with
  | toml =>
    match (Toml.read? text).bind (Config.ofJson? ⟨true, true⟩) with
    | some config => .ok config
    | none => .error .toml
  | json =>
    match (Json.read? text).bind (Config.ofJson? ⟨true, false⟩) with
    | some config => .ok config
    | none => .error .json

end ConfigFormat

inductive ConfigLayer where
  | defaults
  | development
  | text (text format : String)
  | file (path : String)
  | optionalFile (path : String)
  /-- The file `.env`, which adds to the environment. -/
  | dotenv
  /-- The variables of the environment whose names begin so. -/
  | environment (name : String)
  deriving DecidableEq, Repr

structure ConfigLoader where
  config : Config := {}
  /-- The first part of the names of the variables that override fields. -/
  overrides : Option String := none
  deriving DecidableEq, Repr

namespace ConfigLoader

def defaultVariables : String := "PYLON"

def withDefaults (loader : ConfigLoader) : ConfigLoader := { loader with config := {} }

def withDevelopment (loader : ConfigLoader) : ConfigLoader :=
  { loader with config := Config.development }

def withText (loader : ConfigLoader) (text format : String) : Except ConfigError ConfigLoader :=
  let name := Text.Case.lower format
  match ConfigFormat.ofName? name with
  | none => .error (.unsupportedFormat name)
  | some format =>
    match format.read text with
    | .ok config => .ok { loader with config }
    | .error e => .error e

def withFile (loader : ConfigLoader) (files : FileSystem) (path : String) :
    Except ConfigError ConfigLoader :=
  match files.find? path with
  | none => .error (.fileNotFound path)
  | some .directory => .error (.unreadable path)
  | some (.file content) =>
    match Text.ofBytes? content with
    | none => .error (.unreadable path)
    | some text =>
      match (Directory.fileName? path).bind Directory.extension? with
      | none => .error (.unsupportedFormat path)
      | some extension =>
        match ConfigFormat.ofName? (Text.Case.lower extension) with
        | none => .error (.unsupportedFormat path)
        | some format =>
          match format.read text with
          | .ok config => .ok { loader with config }
          | .error e => .error e

def withOptionalFile (loader : ConfigLoader) (files : FileSystem) (path : String) :
    Except ConfigError ConfigLoader :=
  match files.find? path with
  | none => .ok loader
  | some _ => loader.withFile files path

def withVariables (loader : ConfigLoader) (name : String) : ConfigLoader :=
  { loader with overrides := some (Text.Case.upper name) }

def number (name value : String) : Except ConfigError Nat :=
  match Text.Decimal.read? Text.Decimal.maxWord (Text.trim value.toList) with
  | some n => .ok n
  | none => .error (.environment name "expected non-negative integer")

def flag (name value : String) : Except ConfigError Bool :=
  let word := Text.Case.lower value
  if ["true", "1", "yes", "on"].contains word then .ok true
  else if ["false", "0", "no", "off"].contains word then .ok false
  else .error (.environment name "expected boolean")

def logForm (name value : String) : Except ConfigError Bool :=
  let word := Text.Case.lower value
  if word = "json" then .ok true
  else if word = "pretty" ∨ word = "text" then .ok false
  else .error (.environment name "expected 'json' or 'pretty'")

def nameParts : List Char → List (List Char)
  | [] => [[]]
  | '_' :: '_' :: rest => [] :: nameParts rest
  | c :: rest =>
    match nameParts rest with
    | [] => [[c]]
    | part :: parts => (c :: part) :: parts

def overrideServer (s : ServerSection) (key name value : String) : Except ConfigError ServerSection :=
  match key with
  | "HOST" => .ok { s with host := value }
  | "MAX_PAYLOAD_SIZE" => do return { s with maxPayloadSize := ← number name value }
  | "MAX_BACKPRESSURE" => do return { s with maxBackpressure := ← number name value }
  | "IDLE_TIMEOUT_SECS" => do return { s with idleTimeoutSecs := ← number name value }
  | "MAX_LIFETIME_MINUTES" => do return { s with maxLifetimeMinutes := ← number name value }
  | "SEND_PINGS_AUTOMATICALLY" => do return { s with sendPingsAutomatically := ← flag name value }
  | "CLOSE_ON_BACKPRESSURE_LIMIT" => do
    return { s with closeOnBackpressureLimit := ← flag name value }
  | "RESET_IDLE_TIMEOUT_ON_SEND" => do return { s with resetIdleTimeoutOnSend := ← flag name value }
  | "COMPRESSION" => .ok { s with compression := Text.Case.lower value }
  | "ECHO" => do return { s with echo := ← flag name value }
  | "SHUTDOWN_TIMEOUT_SECS" => do return { s with shutdownTimeoutSecs := ← number name value }
  | _ => .ok s

def overrideLogging (s : LoggingSection) (key name value : String) :
    Except ConfigError LoggingSection :=
  match key with
  | "ENABLED" => do return { s with enabled := ← flag name value }
  | "LEVEL" => .ok { s with level := value }
  | "JSON" => do return { s with json := ← flag name value }
  | "FORMAT" => do return { s with json := ← logForm name value }
  | _ => .ok s

def target? (marker : String) (name : String) : Option (String × String) :=
  if marker.toList.isPrefixOf name.toList then
    match nameParts (name.toList.drop marker.length) with
    | [part, key] => some (String.ofList part, String.ofList key)
    | _ => none
  else none

def override (marker : String) (config : Config) (entry : String × String) :
    Except ConfigError Config :=
  match target? marker entry.1 with
  | some ("SERVER", key) => do
    return { config with server := ← overrideServer config.server key entry.1 entry.2 }
  | some ("LOGGING", key) => do
    return { config with logging := ← overrideLogging config.logging key entry.1 entry.2 }
  | _ => .ok config

def overrideAll (marker : String) : Config → Variables → Except ConfigError Config
  | config, [] => .ok config
  | config, entry :: rest =>
    match override marker config entry with
    | .ok config => overrideAll marker config rest
    | .error e => .error e

def marker (name : String) : String := name ++ "__"

def checked (config : Config) : Except ConfigError Config := config.validate.map fun () => config

/-- The configuration, with the overriding variables taken into account, and checked. To look for
    them all variables are read, and one that is no text breaks the loading off: there is no result. -/
def load (loader : ConfigLoader) (env : Environment) : Option (Except ConfigError Config) :=
  match loader.overrides with
  | none => some (checked loader.config)
  | some name => env.texts?.map fun vars => (overrideAll (marker name) loader.config vars).bind checked

def loadUnvalidated (loader : ConfigLoader) : Config := loader.config

def dotenv (files : FileSystem) (env : Environment) : Environment :=
  match files.find? ".env" with
  | some (.file content) => Dotenv.load env content
  | _ => env

def apply (files : FileSystem) (loader : ConfigLoader) (env : Environment) :
    ConfigLayer → Except ConfigError (ConfigLoader × Environment)
  | .defaults => .ok (loader.withDefaults, env)
  | .development => .ok (loader.withDevelopment, env)
  | .text text format => (loader.withText text format).map (·, env)
  | .file path => (loader.withFile files path).map (·, env)
  | .optionalFile path => (loader.withOptionalFile files path).map (·, env)
  | .dotenv => .ok (loader, dotenv files env)
  | .environment name => .ok (loader.withVariables name, env)

end ConfigLoader

end Gateway
