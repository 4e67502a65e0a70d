import Gateway.Json.Shape
import Gateway.Log.Config
import Gateway.Server.Config

namespace Gateway

/-- What is wrong with a configuration or where it comes from. -/
inductive ConfigError where
  | fileNotFound (path : String)
  | unreadable (path : String)
  /-- A TOML text is malformed or has the wrong fields. -/
  | toml
  /-- A JSON text is malformed or has the wrong fields. -/
  | json
  | invalidValue (field reason : String)
  | environment (name reason : String)
  | unsupportedFormat (name : String)
  deriving DecidableEq, Repr

def ConfigError.message : ConfigError → String
  | fileNotFound path => "configuration file not found: " ++ path
  | unreadable path => "failed to read configuration file: " ++ path
  | toml => "failed to parse TOML configuration: unexpected text or field"
  | json => "failed to parse JSON configuration: unexpected text or field"
  | invalidValue field reason => "invalid configuration value for " ++ field ++ ": " ++ reason
  | environment name reason => "failed to parse environment variable " ++ name ++ ": " ++ reason
  | unsupportedFormat name => "unsupported configuration format: " ++ name

structure ServerSection where
  host : String := "0.0.0.0"
  maxPayloadSize : Nat := 16 * 1024 * 1024
  maxBackpressure : Nat := 64 * 1024
  idleTimeoutSecs : Nat := 120
  maxLifetimeMinutes : Nat := 0
  sendPingsAutomatically : Bool := true
  closeOnBackpressureLimit : Bool := false
  resetIdleTimeoutOnSend : Bool := true
  compression : String := "shared_compressor"
  echo : Bool := false
  shutdownTimeoutSecs : Nat := 5
  deriving DecidableEq, Repr

namespace ServerSection

def fieldNames : List String :=
  ["host", "max_payload_size", "max_backpressure", "idle_timeout_secs", "max_lifetime_minutes",
    "send_pings_automatically", "close_on_backpressure_limit", "reset_idle_timeout_on_send",
    "compression", "echo", "shutdown_timeout_secs"]

def json (s : ServerSection) : Json.Value :=
  .object [("host", .string s.host), ("max_payload_size", .natural s.maxPayloadSize),
    ("max_backpressure", .natural s.maxBackpressure),
    ("idle_timeout_secs", .natural s.idleTimeoutSecs),
    ("max_lifetime_minutes", .natural s.maxLifetimeMinutes),
    ("send_pings_automatically", .bool s.sendPingsAutomatically),
    ("close_on_backpressure_limit", .bool s.closeOnBackpressureLimit),
    ("reset_idle_timeout_on_send", .bool s.resetIdleTimeoutOnSend),
    ("compression", .string s.compression), ("echo", .bool s.echo),
    ("shutdown_timeout_secs", .natural s.shutdownTimeoutSecs)]

def ofJson? (rules : Json.RecordRules) (value : Json.Value) : Option ServerSection := do
  let fields ← Json.Fields.read? fieldNames rules value
  let d : ServerSection := {}
  return {
    host := ← fields.optional? "host" Json.text? d.host
    maxPayloadSize := ← fields.optional? "max_payload_size" Json.word? d.maxPayloadSize
    maxBackpressure := ← fields.optional? "max_backpressure" Json.word? d.maxBackpressure
    idleTimeoutSecs := ← fields.optional? "idle_timeout_secs" Json.word? d.idleTimeoutSecs
    maxLifetimeMinutes := ← fields.optional? "max_lifetime_minutes" Json.word? d.maxLifetimeMinutes
    sendPingsAutomatically :=
      ← fields.optional? "send_pings_automatically" Json.bool? d.sendPingsAutomatically
    closeOnBackpressureLimit :=
      ← fields.optional? "close_on_backpressure_limit" Json.bool? d.closeOnBackpressureLimit
    resetIdleTimeoutOnSend :=
      ← fields.optional? "reset_idle_timeout_on_send" Json.bool? d.resetIdleTimeoutOnSend
    compression := ← fields.optional? "compression" Json.text? d.compression
    echo := ← fields.optional? "echo" Json.bool? d.echo
    shutdownTimeoutSecs :=
      ← fields.optional? "shutdown_timeout_secs" Json.word? d.shutdownTimeoutSecs }

end ServerSection

structure LoggingSection where
  enabled : Bool := true
  level : String := "info"
  json : Bool := true
  deriving DecidableEq, Repr

namespace LoggingSection

def fieldNames : List String := ["enabled", "level", "json"]

def toJson (s : LoggingSection) : Json.Value :=
  .object [("enabled", .bool s.enabled), ("level", .string s.level), ("json", .bool s.json)]

def ofJson? (rules : Json.RecordRules) (value : Json.Value) : Option LoggingSection := do
  let fields ← Json.Fields.read? fieldNames rules value
  let d : LoggingSection := {}
  return {
    enabled := ← fields.optional? "enabled" Json.bool? d.enabled
    level := ← fields.optional? "level" Json.text? d.level
    json := ← fields.optional? "json" Json.bool? d.json }

end LoggingSection

structure Config where
  server : ServerSection := {}
  logging : LoggingSection := {}
  deriving DecidableEq, Repr

namespace Config

def development : Config :=
  { server := { host := "127.0.0.1" }, logging := { level := "debug", json := false } }

def fieldNames : List String := ["server", "logging"]

def json (c : Config) : Json.Value :=
  .object [("server", c.server.json), ("logging", c.logging.toJson)]

def ofJson? (rules : Json.RecordRules) (value : Json.Value) : Option Config := do
  let fields ← Json.Fields.read? fieldNames rules value
  return {
    server := ← fields.optional? "server" (ServerSection.ofJson? rules) {}
    logging := ← fields.optional? "logging" (LoggingSection.ofJson? rules) {} }

def compression (c : Config) : Except ConfigError CompressionMode :=
  match CompressionMode.read c.server.compression with
  | .ok mode => .ok mode
  | .error name =>
    .error (.invalidValue "server.compression" (CompressionMode.unknownMessage name))

def validate (c : Config) : Except ConfigError Unit :=
  if (Text.trim c.server.host.toList).isEmpty then
    .error (.invalidValue "server.host" "must not be empty")
  else if c.server.maxPayloadSize = 0 then
    .error (.invalidValue "server.max_payload_size" "must be greater than 0")
  else if c.server.maxBackpressure = 0 then
    .error (.invalidValue "server.max_backpressure" "must be greater than 0")
  else
    match c.compression with
    | .error e => .error e
    | .ok _ =>
      match LogFilter.validate c.logging.level with
      | .error e => .error (.invalidValue "logging.level" e.message)
      | .ok () => .ok ()

def serverConfig (c : Config) : Except ConfigError ServerConfig :=
  match c.compression with
  | .error e => .error e
  | .ok compression => .ok {
      host := c.server.host
      maxPayloadSize := c.server.maxPayloadSize
      maxBackpressure := c.server.maxBackpressure
      idleTimeoutSecs := c.server.idleTimeoutSecs
      maxLifetimeMinutes := c.server.maxLifetimeMinutes
      sendPingsAutomatically := c.server.sendPingsAutomatically
      closeOnBackpressureLimit := c.server.closeOnBackpressureLimit
      resetIdleTimeoutOnSend := c.server.resetIdleTimeoutOnSend
      compression
      echo := c.server.echo
      shutdownTimeoutMs := c.server.shutdownTimeoutSecs * 1000 }

def logConfig (c : Config) : LogConfig :=
  { LogConfig.withLevel c.logging.level c.logging.json with enabled := c.logging.enabled }

end Config

end Gateway
