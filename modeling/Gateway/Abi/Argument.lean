import Gateway.Abi.Failure

namespace Gateway.Abi

abbrev TextPointer := Option Bytes

abbrev DataPointer := Option Bytes

abbrev BufferPointer := Option Bytes

namespace TextPointer

def terminated (bytes : Bytes) : Bytes := bytes.takeWhile (· != 0)

def text? (pointer : TextPointer) : Option String :=
  pointer.bind fun bytes => Text.ofBytes? (terminated bytes)

def read (pointer : TextPointer) (argument : String) : Except Failure String :=
  match pointer with
  | none => .error (.nullPointer argument)
  | some bytes =>
    match Text.ofBytes? (terminated bytes) with
    | some s => .ok s
    | none => .error (.invalidUtf8 argument)

def readConnectionId (pointer : TextPointer) (argument : String) : Except Failure ConnectionId :=
  match pointer.read argument with
  | .ok s => (ConnectionId.read s).mapError .ofId
  | .error failure => .error failure

def readRequestId (pointer : TextPointer) (argument : String) : Except Failure RequestId :=
  match pointer.read argument with
  | .ok s => (RequestId.read s).mapError .ofId
  | .error failure => .error failure

end TextPointer

/-- The first `length` bytes behind a pointer. Where no bytes are wanted any pointer will do. -/
def DataPointer.read (pointer : DataPointer) (length : Nat) : Except Failure Bytes :=
  if length = 0 then .ok []
  else
    match pointer with
    | none => .error (.nullPointer "data")
    | some bytes => .ok (bytes.take length)

def BufferPointer.read (pointer : BufferPointer) : Except Failure Bytes :=
  match pointer with
  | none => .error (.nullPointer "buffer")
  | some bytes => .ok bytes

/-- The settings that a server is created with, as the caller writes them. -/
structure Settings where
  host : TextPointer := none
  maxPayloadSize : Nat := 16 * 1024 * 1024
  maxBackpressure : Nat := 64 * 1024
  idleTimeoutSecs : Nat := 120
  maxLifetimeMinutes : Nat := 0
  sendPingsAutomatically : Bool := true
  closeOnBackpressureLimit : Bool := false
  resetIdleTimeoutOnSend : Bool := true
  compression : CompressionMode := .sharedCompressor
  echo : Bool := false
  shutdownTimeoutSecs : Nat := 5
  deriving DecidableEq, Repr

def Settings.ofConfig (c : ServerConfig) : Settings where
  host := some (Text.bytes c.host)
  maxPayloadSize := c.maxPayloadSize
  maxBackpressure := c.maxBackpressure
  idleTimeoutSecs := c.idleTimeoutSecs
  maxLifetimeMinutes := c.maxLifetimeMinutes
  sendPingsAutomatically := c.sendPingsAutomatically
  closeOnBackpressureLimit := c.closeOnBackpressureLimit
  resetIdleTimeoutOnSend := c.resetIdleTimeoutOnSend
  compression := c.compression
  echo := c.echo
  shutdownTimeoutSecs := c.shutdownTimeoutMs / 1000

def Settings.serverConfig (s : Settings) : Except String ServerConfig :=
  if s.maxPayloadSize = 0 then .error "max_payload_size must be greater than 0"
  else if s.maxBackpressure = 0 then .error "max_backpressure must be greater than 0"
  else
    let config : ServerConfig := {
      maxPayloadSize := s.maxPayloadSize
      maxBackpressure := s.maxBackpressure
      idleTimeoutSecs := s.idleTimeoutSecs
      maxLifetimeMinutes := s.maxLifetimeMinutes
      sendPingsAutomatically := s.sendPingsAutomatically
      closeOnBackpressureLimit := s.closeOnBackpressureLimit
      resetIdleTimeoutOnSend := s.resetIdleTimeoutOnSend
      compression := s.compression
      echo := s.echo
      shutdownTimeoutMs := s.shutdownTimeoutSecs * 1000 }
    match s.host with
    | none => .ok config
    | some _ =>
      match s.host.text? with
      | some host => .ok { config with host }
      | none => .error "host is not valid UTF-8"

inductive FieldArgument where
  | method
  | url
  | query
  | endpoint
  | header (name : TextPointer)
  | allHeaders
  deriving DecidableEq, Repr

def FieldArgument.ofField : RequestField → FieldArgument
  | .method => method
  | .url => url
  | .query => query
  | .endpoint => endpoint
  | .header name => header (some (Text.bytes name))
  | .allHeaders => allHeaders

def FieldArgument.read : FieldArgument → Except Failure RequestField
  | method => .ok .method
  | url => .ok .url
  | query => .ok .query
  | endpoint => .ok .endpoint
  | header name => (name.read "name").map .header
  | allHeaders => .ok .allHeaders

def idCapacity : Nat := 40

/-- The record that an event is written to. The caller sets the buffer for the payload and its
    capacity, and the call all else. -/
structure EventRecord where
  kind : Nat
  id : Bytes
  payload : BufferPointer
  payloadCapacity : Nat
  payloadLength : Nat
  truncated : Bool
  deriving DecidableEq, Repr

namespace EventRecord

def blank : EventRecord := ⟨0, List.replicate idCapacity 0, none, 0, 0, false⟩

def check (r : EventRecord) : Except Failure Unit :=
  if r.payload.isNone && 0 < r.payloadCapacity then .error (.nullPointer "event.payload") else .ok ()

def write (r : EventRecord) (e : Envelope) : EventRecord :=
  let id := Buffer.copyTerminated (Text.bytes e.id) r.id
  let room := (r.payload.getD []).take r.payloadCapacity
  let payload := Buffer.copy e.payload room
  { r with
    kind := e.kind.code
    id := id.buffer
    payload := r.payload.map fun bytes => payload.buffer ++ bytes.drop r.payloadCapacity
    payloadLength := payload.copied
    truncated := e.truncated || id.truncated || payload.truncated }

def envelope? (r : EventRecord) : Option Envelope := do
  let kind ← EventKind.ofCode? r.kind
  let id ← TextPointer.text? (some r.id)
  return ⟨kind, id, (r.payload.getD []).take r.payloadLength, r.truncated⟩

def spare (r : EventRecord) : Bytes := (r.payload.getD []).drop r.payloadLength

end EventRecord

end Gateway.Abi
