import Gateway.Json.Shape
import Gateway.Server.Config

namespace Gateway

def SessionConfig.secondsJson (limit : Option Nat) : Json.Value :=
  match limit with
  | some milliseconds => .natural (milliseconds / 1000)
  | none => .null

def SessionConfig.json (c : SessionConfig) : Json.Value :=
  .object [("idle_timeout_secs", secondsJson c.idleTimeout), ("send_pings", .bool c.sendPings),
    ("max_lifetime_secs", secondsJson c.maxLifetime), ("reset_idle_on_send", .bool c.resetIdleOnSend),
    ("echo", .bool c.echo)]

def BackpressurePolicy.json (p : BackpressurePolicy) : Json.Value :=
  .object [("max_backpressure", .natural p.maxBackpressure), ("close_on_limit", .bool p.closeOnLimit)]

namespace ServerConfig

/-- The settings by name. A time in milliseconds is told in a word of 64 bits, and so modulo its
    range. -/
def settings (c : ServerConfig) : List (String × Json.Value) :=
  [("host", .string c.host), ("max_payload_size", .natural c.maxPayloadSize),
    ("max_backpressure", .natural c.maxBackpressure),
    ("idle_timeout_secs", .natural c.idleTimeoutSecs),
    ("max_lifetime_minutes", .natural c.maxLifetimeMinutes),
    ("send_pings_automatically", .bool c.sendPingsAutomatically),
    ("close_on_backpressure_limit", .bool c.closeOnBackpressureLimit),
    ("reset_idle_timeout_on_send", .bool c.resetIdleTimeoutOnSend),
    ("compression", .string c.compression.name), ("echo", .bool c.echo),
    ("shutdown_timeout_ms", .natural (c.shutdownTimeoutMs % 1 <<< 64))]

def withSettings (c : ServerConfig) (settings : List (String × Json.Value)) : ServerConfig :=
  let mode? (value : Json.Value) : Option CompressionMode := do
    (CompressionMode.read (← Json.text? value)).toOption
  let get {α : Type} (read? : Json.Value → Option α) (name : String) (now : α) : α :=
    ((settings.lookup name).bind read?).getD now
  { host := get Json.text? "host" c.host
    maxPayloadSize := get Json.word? "max_payload_size" c.maxPayloadSize
    maxBackpressure := get Json.word? "max_backpressure" c.maxBackpressure
    idleTimeoutSecs := get Json.word? "idle_timeout_secs" c.idleTimeoutSecs
    maxLifetimeMinutes := get Json.word? "max_lifetime_minutes" c.maxLifetimeMinutes
    sendPingsAutomatically := get Json.bool? "send_pings_automatically" c.sendPingsAutomatically
    closeOnBackpressureLimit := get Json.bool? "close_on_backpressure_limit" c.closeOnBackpressureLimit
    resetIdleTimeoutOnSend := get Json.bool? "reset_idle_timeout_on_send" c.resetIdleTimeoutOnSend
    compression := get mode? "compression" c.compression
    echo := get Json.bool? "echo" c.echo
    shutdownTimeoutMs := get Json.word? "shutdown_timeout_ms" c.shutdownTimeoutMs }

def summary (c : ServerConfig) (isChecked : Bool) : Option Json.Value := do
  let session ← c.session? isChecked
  return .object (c.settings ++ [("session", session.json), ("policy", c.backpressure.json)])

end ServerConfig

end Gateway
