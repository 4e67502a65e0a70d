import Gateway.Json.Shape
import Gateway.Log.Filter

namespace Gateway

structure LogConfig where
  enabled : Bool := true
  level : String := "info"
  jsonFormat : Bool := true
  spanEvents : Bool := false
  fileLineInfo : Bool := false
  threadIds : Bool := false
  includeTarget : Bool := true
  deriving DecidableEq, Repr

inductive LogError where
  | install (reason : String)
  | invalidConfig (reason : String)
  deriving DecidableEq, Repr

def LogError.message : LogError → String
  | install reason => "Failed to initialize logging: " ++ reason
  | invalidConfig reason => "Invalid configuration: " ++ reason

namespace LogConfig

def development : LogConfig :=
  { level := "debug", jsonFormat := false, spanEvents := true, fileLineInfo := true }

def withLevel (level : String) (jsonFormat : Bool) : LogConfig := { level, jsonFormat }

def fieldNames : List String :=
  ["enabled", "level", "json_format", "span_events", "file_line_info", "thread_ids",
    "include_target"]

def json (c : LogConfig) : Json.Value :=
  .object [("enabled", .bool c.enabled), ("level", .string c.level),
    ("json_format", .bool c.jsonFormat), ("span_events", .bool c.spanEvents),
    ("file_line_info", .bool c.fileLineInfo), ("thread_ids", .bool c.threadIds),
    ("include_target", .bool c.includeTarget)]

/-- Reads a configuration with all its fields; other members of an object are passed over. -/
def ofJson? (value : Json.Value) : Option LogConfig := do
  let fields ← Json.Fields.read? fieldNames ⟨false, false⟩ value
  return {
    enabled := ← fields.required? "enabled" Json.bool?
    level := ← fields.required? "level" Json.text?
    jsonFormat := ← fields.required? "json_format" Json.bool?
    spanEvents := ← fields.required? "span_events" Json.bool?
    fileLineInfo := ← fields.required? "file_line_info" Json.bool?
    threadIds := ← fields.required? "thread_ids" Json.bool?
    includeTarget := ← fields.required? "include_target" Json.bool? }

end LogConfig

def LogFilter.validate (filter : String) : Except LogError Unit :=
  match LogFilter.check filter with
  | .ok () => .ok ()
  | .error fault =>
    .error (.invalidConfig ("Invalid log level '" ++ filter ++ "': " ++ fault.message))

structure Logger where
  installed : Bool
  deriving DecidableEq, Repr

namespace Logger

def none : Logger := ⟨false⟩

def install (logger : Logger) (config : LogConfig) : Except LogError Logger :=
  if !config.enabled then .ok logger
  else
    match LogFilter.validate config.level with
    | .error e => .error e
    | .ok () =>
      if logger.installed then
        .error (.install "a global default trace dispatcher has already been set")
      else .ok ⟨true⟩

end Logger

end Gateway
