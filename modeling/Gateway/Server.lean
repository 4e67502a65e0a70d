import Gateway.Buffer
import Gateway.Engine

namespace Gateway

open Http (StatusCode)
open WebSocket (Closure Outbound)

inductive ServerState where
  | idle
  | listening
  | shuttingDown
  deriving DecidableEq, Repr

namespace ServerState

def name : ServerState → String
  | idle => "idle"
  | listening => "listening"
  | shuttingDown => "shutting_down"

def code : ServerState → Nat
  | idle => 0
  | listening => 1
  | shuttingDown => 2

def title : ServerState → String
  | idle => "Idle"
  | listening => "Listening"
  | shuttingDown => "ShuttingDown"

end ServerState

/-- What can go wrong with a listen socket; the fault of the machine is a text. -/
inductive ServerError where
  | bind (address fault : String)
  | invalidState (text : String)
  | runtime (fault : String)
  deriving DecidableEq, Repr

namespace ServerError

def message : ServerError → String
  | bind address fault => "failed to bind " ++ address ++ ": " ++ fault
  | invalidState text => "invalid server state: " ++ text
  | runtime fault => "failed to start engine runtime: " ++ fault

def isFatal : ServerError → Bool
  | bind _ _ => true
  | _ => false

end ServerError

structure Server where
  engine : Engine
  state : ServerState
  port : Option Nat
  deriving DecidableEq, Repr

namespace Server

def create (config : ServerConfig) : Server := ⟨.start config, .idle, none⟩

def config (s : Server) : ServerConfig := s.engine.config

def withEngine {α : Type} (s : Server) (step : Engine → α × Engine) : α × Server :=
  let (answer, engine) := step s.engine
  (answer, { s with engine })

def addRoute (s : Server) (verb : Verb) (pattern : String) : Server :=
  { s with engine := s.engine.addRoute verb pattern }

/-- Starts to listen, unless the server is not idle. `bound` is what became of the attempt to have a
    socket on the port `requested`: the port it has got, or the machine's fault, which the host is
    told of. -/
def startListening (s : Server) (requested : Nat) (bound : Except String Nat) : Bool × Server :=
  if s.state ≠ .idle then (false, s)
  else
    match bound with
    | .error fault =>
      let error := ServerError.bind (s.config.host ++ ":" ++ Text.Decimal.text requested) fault
      (false, { s with engine := s.engine.emitServer .error (Text.bytes error.message) })
    | .ok port =>
      let engine := s.engine.reopen.emitServer .listening (Text.bytes (Text.Decimal.text port))
      (true, { engine, state := .listening, port := some port })

def stopping : Closure := .of .goingAway "server shutting down"

/-- Stops to listen, unless the server does not: every client is closed, every request in flight is
    answered with 503, and the host is told of both and of the end. -/
def stopListening (s : Server) : Bool × Server :=
  if s.state ≠ .listening then (false, s)
  else
    match s.port with
    | none => (false, { s with state := .idle })
    | some _ =>
      let (_, engine) := s.engine.closeConnections stopping
      let (_, engine) := engine.withRequests (·.abortAll .serviceUnavailable)
      (true, { engine := engine.emitServer .shutDown [], state := .idle, port := none })

def sendText (s : Server) (id : ConnectionId) (data : Bytes) : SendStatus × Server :=
  match Outbound.ofBytes data with
  | .ok frame => s.withEngine (·.send id frame)
  | .error _ => s.withEngine fun engine => (.dropped, engine.measure (.messageSent .dropped))

def sendBinary (s : Server) (id : ConnectionId) (data : Bytes) : SendStatus × Server :=
  s.withEngine (·.send id (.binary data))

def sendCompressedText (s : Server) (id : ConnectionId) (data : Bytes) : SendStatus × Server :=
  s.sendText id data

def broadcastText (s : Server) (data : Bytes) : BroadcastStatus × Server :=
  match Outbound.ofBytes data with
  | .ok frame => s.withEngine (·.broadcast frame)
  | .error _ => (.dropped, s)

def broadcastBinary (s : Server) (data : Bytes) : BroadcastStatus × Server :=
  s.withEngine (·.broadcast (.binary data))

/-- Sends text that may be compressed to every live connection; it goes out as it is. -/
def broadcastCompressedText (s : Server) (data : Bytes) : BroadcastStatus × Server :=
  s.broadcastText data

def disconnect (s : Server) (id : ConnectionId) : Bool × Server :=
  s.withEngine (·.disconnect id (.of .normal ""))

def clientCount (s : Server) : Nat := s.engine.connections.liveCount

def purge (s : Server) : Nat × Server := s.withEngine (·.purge)

def hasRequest (s : Server) (id : RequestId) : Bool := s.engine.requests.has id

def withRequests {α : Type} (s : Server) (f : RequestRegistry → α × RequestRegistry) : α × Server :=
  s.withEngine (·.withRequests f)

def write (s : Server) (id : RequestId) (data : Bytes) : ResponseStatus × Server :=
  s.withRequests (·.write id data)

def finish (s : Server) (id : RequestId) (data : Bytes) : ResponseStatus × Server :=
  s.withRequests (·.finish id data)

def tryEnd (s : Server) (id : RequestId) (data : Bytes) (totalSize : Nat) :
    ResponseStatus × Server :=
  s.withRequests (·.tryEnd id data totalSize)

def setStatus (s : Server) (id : RequestId) (line : String) : RequestStatus × Server :=
  s.withRequests (·.setStatus id line)

def setHeader (s : Server) (id : RequestId) (name value : String) : RequestStatus × Server :=
  s.withRequests (·.setHeader id name value)

def requestField (s : Server) (id : RequestId) (field : RequestField) : Option String :=
  match s.engine.requests.find? id with
  | some record => record.fieldText? field
  | none => none

def clearFirst : Bytes → Bytes
  | [] => []
  | _ :: rest => 0 :: rest

/-- Copies a part of a request into a buffer of the host; gives whether it is there and whole, where
    a header field may have lost its end. -/
def copyRequestField (s : Server) (id : RequestId) (field : RequestField) (buffer : Bytes) :
    Bool × Bytes :=
  match s.engine.requests.copyField id field buffer with
  | some copy => (copy.isComplete || field.isHeader, copy.buffer)
  | none => (false, clearFirst buffer)

def hasEvents (s : Server) : Bool := s.engine.queue.hasEvents

def eventCount (s : Server) : Nat := s.engine.queue.length

def withQueue {α : Type} (s : Server) (f : EventQueue → α × EventQueue) : α × Server :=
  s.withEngine (·.withQueue f)

def popEvent (s : Server) : Envelope × Server := s.withQueue (·.pop)

def drainEvents (s : Server) (n : Nat) : List Envelope × Server := s.withQueue (·.drain n)

def description (s : Server) : String :=
  let port := match s.port with
    | some port => "Some(" ++ Text.Decimal.text port ++ ")"
    | none => "None"
  "Server \x7b state: " ++ s.state.title ++ ", port: " ++ port ++ ", pending_events: " ++
    Text.Decimal.text s.eventCount ++ ", .. \x7d"

end Server

end Gateway
