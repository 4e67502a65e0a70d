import Gateway.Connection.Registry
import Gateway.Event.Queue
import Gateway.Metrics
import Gateway.Request.Registry
import Gateway.Route
import Gateway.Server.Config
import Gateway.WebSocket.Upgrade

namespace Gateway

open Http (Headers Method StatusCode Uri)
open WebSocket (Closure CloseCode Message Outbound)

structure Engine where
  config : ServerConfig
  queue : EventQueue
  connections : ConnectionRegistry
  requests : RequestRegistry
  routes : RouteTable
  log : List Measurement
  deriving DecidableEq, Repr

namespace Engine

def start (config : ServerConfig) : Engine where
  config := config
  queue := .empty config.maxPayloadSize
  connections := .empty config.backpressure
  requests := .empty config.maxBackpressure
  routes := .empty
  log := []

def measure (e : Engine) (m : Measurement) : Engine := { e with log := e.log ++ [m] }

def emit (e : Engine) (kind : EventKind) (id : String) (payload : Bytes) : Engine :=
  let (truncated, queue) := e.queue.emit kind id payload
  { e with queue }.measure (.eventQueued kind truncated)

def emitServer (e : Engine) (kind : EventKind) (payload : Bytes) : Engine :=
  e.emit kind serverId payload

def withQueue {α : Type} (e : Engine) (f : EventQueue → α × EventQueue) : α × Engine :=
  let (answer, queue) := f e.queue
  (answer, { e with queue })

def drainEvents (e : Engine) : List Envelope × Engine := e.withQueue (·.drain e.queue.length)

def addRoute (e : Engine) (verb : Verb) (pattern : String) : Engine :=
  { e with routes := e.routes.add verb pattern }

def send (e : Engine) (id : ConnectionId) (frame : Outbound) : SendStatus × Engine :=
  let (status, connections) := e.connections.send id frame
  (status, { e with connections }.measure (.messageSent status))

def broadcast (e : Engine) (frame : Outbound) : BroadcastStatus × Engine :=
  let (deliveries, connections) := e.connections.broadcast frame
  (.ofDeliveries deliveries,
    { e with connections, log := e.log ++ deliveries.map .messageSent })

def disconnect (e : Engine) (id : ConnectionId) (closure : Closure) : Bool × Engine :=
  let (queued, connections) := e.connections.disconnect id closure
  (queued, { e with connections })

def fade (e : Engine) (id : ConnectionId) : Bool × Engine :=
  let (faded, connections) := e.connections.fade id
  (faded, { e with connections })

def purge (e : Engine) : Nat × Engine :=
  let (removed, connections) := e.connections.purge
  (removed, { e with connections })

def reopen (e : Engine) : Engine := { e with connections := e.connections.reopen }

def shutDown (e : Engine) (closure : Closure) : List ConnectionId × Engine :=
  let (faded, connections) := e.connections.shutDown closure
  (faded, { e with connections })

def closeConnections (e : Engine) (closure : Closure) : Nat × Engine :=
  let (faded, e) := e.shutDown closure
  (faded.length, faded.foldl (fun e id => e.emit .closed id.text closure.payload) e)

def modifyLine (e : Engine) (line : Nat) (f : Line → Line) : Engine :=
  { e with connections := e.connections.modifyLine line f }

def openLine (e : Engine) (id : ConnectionId) : Nat × Engine :=
  let (line, connections) := e.connections.openLine id
  (line, { e with connections })

def register (e : Engine) (id : ConnectionId) (line : Nat) : Bool × Engine :=
  let (accepted, connections) := e.connections.register id line
  (accepted, { e with connections })

def openSession (e : Engine) (id : ConnectionId) : Option Nat × Engine :=
  let (line, e) := e.openLine id
  let (accepted, e, connections) :=
    e.connections.registerThen id line (fun e => e.emit .opened id.text []) e
  let e := { e with connections }
  if accepted then (some line, e.measure .connectionOpened)
  else (none, e.modifyLine line Line.hangUp)

/-- Lets a step of a session take effect: the host is told of its message, and what was flushed no
    longer waits. -/
def applyStep (e : Engine) (id : ConnectionId) (line : Nat) (step : SessionStep) : Engine :=
  let e := e.modifyLine line (·.flush step.flushed)
  match step.message with
  | some data => e.emit .message id.text data
  | none => e

def closeSession (e : Engine) (id : ConnectionId) (line : Nat) (session : Session) : Engine :=
  let e := (e.measure .connectionClosed).modifyLine line Line.hangUp
  let (faded, e) := e.fade id
  if faded then e.emit .closed id.text session.closePayload else e

inductive Disposal where
  | answered (status : StatusCode) (text : String)
  | upgraded (status : StatusCode) (headers : Headers)
  /-- The host answers it; the number is that of its response. -/
  | dispatched (response : Nat)
  deriving DecidableEq, Repr

def beginRequest (e : Engine) (id : RequestId) (method : Method) (uri : Uri) (headers : Headers)
    (route : String) : Bool × Nat × Engine :=
  let (n, requests) := e.requests.openResponse
  let (accepted, requests) := requests.begin (.ofHead id method uri headers route n)
  (accepted, n, { e with requests })

def dispatch (e : Engine) (id : RequestId) (method : Method) (uri : Uri) (headers : Headers)
    (route : String) : Disposal × Engine :=
  let (accepted, n, e) := e.beginRequest id method uri headers route
  if accepted then
    (.dispatched n, (e.measure (.requestTaken (Verb.ofMethod? method))).emit .requestStart id.text [])
  else (.answered .internalServerError "Internal Server Error", e)

def upgrade (e : Engine) (headers : Headers) : Disposal × Engine :=
  match WebSocket.Upgrade.check headers with
  | .error error => (.answered .badRequest error.message, e)
  | .ok acceptKey =>
    match WebSocket.Upgrade.response acceptKey with
    | .error _ => (.answered .internalServerError "Internal Server Error", e)
    | .ok (status, headers) => (.upgraded status headers, e.measure (.requestTaken (some .ws)))

def handleRequest (e : Engine) (id : RequestId) (method : Method) (uri : Uri) (headers : Headers) :
    Disposal × Engine :=
  let websocket := WebSocket.Upgrade.isRequested headers
  match e.routes.find? method uri.path websocket with
  | none => (.answered .notFound "Not Found", e)
  | some found =>
    if websocket then e.upgrade headers else e.dispatch id method uri headers found.pattern

def receiveBody (e : Engine) (id : RequestId) (data : Bytes) : Engine :=
  if !data.isEmpty && e.requests.has id then e.emit .requestData id.text data else e

def receiveBodyEnd (e : Engine) (id : RequestId) : Engine :=
  if e.requests.has id then e.emit .requestEnd id.text [] else e

def abandonRequest (e : Engine) (id : RequestId) : Engine :=
  let (aborted, requests) := e.requests.abort id
  let e := { e with requests }
  if aborted then e.emit .requestAbort id.text [] else e

def pollHead (e : Engine) (n : Nat) : HeadPoll × Engine :=
  let (poll, requests) := e.requests.pollHead n
  (poll, { e with requests })

/-- The connection asks for the next part of the body of a request's response. A host that waits for
    the body to drain is told how much was written. -/
def pollBody (e : Engine) (id : RequestId) (n : Nat) : BodyPoll × Engine :=
  let (poll, drained, requests) := e.requests.pollBody n
  let e := { e with requests }
  match drained with
  | some written => (poll, e.emit .writable id.text (Text.bytes (Text.Decimal.text written)))
  | none => (poll, e)

def dropBody (e : Engine) (n : Nat) : Engine :=
  { e with requests := e.requests.modifyResponse n Response.hangUp }

def withRequests {α : Type} (e : Engine) (f : RequestRegistry → α × RequestRegistry) : α × Engine :=
  let (answer, requests) := f e.requests
  (answer, { e with requests })

end Engine

inductive SessionMove where
  | start (config : SessionConfig) (now : Nat)
  | read (now : Nat) (message : Message)
  | readEnd (now : Nat)
  /-- It takes a frame from its line, or notices that nobody holds the other end. -/
  | take (now : Nat)
  | wake (now : Nat)
  /-- The frame that it writes has gone out, or is lost. -/
  | written (time : Option Nat)
  /-- It looks for the time at which it acts next, in vain. -/
  | fail
  deriving DecidableEq, Repr

/-- What a move of its task means to a session on a line, and when; `none` if the move is not open
    to it. Nothing but failing is open to a session that cannot tell when it acts next. -/
def Session.event? (session : Session) (e : Engine) (line : Nat) (move : SessionMove) :
    Option (Nat × SessionEvent) := do
  let deadline ← session.deadline
  match move with
  | .read now message => some (now, .frame message)
  | .readEnd now => some (now, .readEnd)
  | .take now =>
    if session.takesOutbound then
      match (e.connections.line? line).bind Line.take? with
      | some (frame, _) => some (now, .outbound frame)
      | none => if e.connections.isAbandoned line then some (now, .abandoned) else none
    else none
  | .wake now => if deadline.any (· ≤ now) then some (now, .timer) else none
  | .start _ _ | .written _ | .fail => none

def Session.breaksOff (session : Session) (move : SessionMove) : Bool :=
  move = .fail && session.deadline.isNone

def Engine.noticed (e : Engine) (line : Nat) : SessionEvent → Engine
  | .outbound _ => e.modifyLine line Line.advance
  | .frame _ | .readEnd | .abandoned | .timer => e

end Gateway
