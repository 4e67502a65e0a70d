import Gateway.Abi.Argument
import Gateway.Config.Loader

namespace Gateway.Abi

/-- What a host holds: the server that it created last, if that went well, the last error, and the
    logger of its process. -/
structure Host where
  server : Option Server
  lastError : Option Failure
  logger : Logger
  deriving DecidableEq, Repr

/-- The pointer to a server that a call is given. -/
inductive ServerPointer where
  | null
  | held
  deriving DecidableEq, Repr

namespace Host

def start : Host := ⟨none, none, .none⟩

def lastErrorText (h : Host) : Option String :=
  h.lastError.map fun failure => String.ofList (failure.message.toList.filter (·.toNat != 0))

def server? (h : Host) : ServerPointer → Option Server
  | .null => none
  | .held => h.server

def resolve (h : Host) (pointer : ServerPointer) : Except Failure Server :=
  match h.server? pointer with
  | some server => .ok server
  | none => .error (.nullPointer "server")

def fail (h : Host) (failure : Failure) : Host := { h with lastError := some failure }

def run {α : Type} (h : Host) (call : Except (Refusal α) (α × Server)) : α × Host :=
  match call with
  | .ok (answer, server) => (answer, { h with server := some server })
  | .error refusal => (refusal.answer, h.fail refusal.failure)

def ask {α : Type} (h : Host) (call : Except (Refusal α) α) : α × Host :=
  match call with
  | .ok answer => (answer, h)
  | .error refusal => (refusal.answer, h.fail refusal.failure)

def hold (h : Host) (created : Except Failure Server) : Bool × Host :=
  match created with
  | .ok server => (true, { h with server := some server })
  | .error failure => (false, { h with server := none }.fail failure)

def create (h : Host) (settings : Option Settings) : Bool × Host :=
  h.hold <|
    match settings with
    | none => .error (.nullPointer "config")
    | some settings => (settings.serverConfig.mapError .invalidConfig).map .create

def fileLoader (files : FileSystem) (path : TextPointer) : Except Failure ConfigLoader :=
  match path with
  | none => .ok {}
  | some _ => do
    let path ← path.read "path"
    (ConfigLoader.withFile {} files path).mapError .ofConfig

def fileConfig (files : FileSystem) (env : Environment) (path : TextPointer) :
    Option (Except Failure ServerConfig) :=
  match fileLoader files path with
  | .error failure => some (.error failure)
  | .ok loader =>
    let env := ConfigLoader.dotenv files env
    ((loader.withVariables ConfigLoader.defaultVariables).load env).map fun loaded =>
      (loaded.bind Config.serverConfig).mapError .ofConfig

def createFromFile (h : Host) (files : FileSystem) (env : Environment) (path : TextPointer) :
    Option (Bool × Host) :=
  (fileConfig files env path).map fun config => h.hold (config.map .create)

def addRoute (h : Host) (pointer : ServerPointer) (verb : Int) (pattern : TextPointer) :
    ErrorCode × Host :=
  let call : Except Failure Server := do
    let server ← h.resolve pointer
    let verb ← (Verb.ofCode verb).mapError (.invalidArgument ·.message)
    let pattern ← pattern.read "pattern"
    return server.addRoute verb pattern
  match call with
  | .ok server => (.ok, { h with server := some server })
  | .error failure => (failure.code, h.fail failure)

def startListening (h : Host) (pointer : ServerPointer) (port : Nat) (bound : Except String Nat) :
    Bool × Host :=
  h.run do
    let server ← refusing false (h.resolve pointer)
    return server.startListening port bound

def stopListening (h : Host) (pointer : ServerPointer) : Bool × Host :=
  h.run do
    let server ← refusing false (h.resolve pointer)
    return server.stopListening

def state (h : Host) (pointer : ServerPointer) : ServerState :=
  match h.server? pointer with
  | some server => server.state
  | none => .idle

def localPort (h : Host) (pointer : ServerPointer) : Int :=
  match (h.server? pointer).bind (·.port) with
  | some port => port
  | none => -1

def hasEvents (h : Host) (pointer : ServerPointer) : Bool :=
  (h.server? pointer).any (·.hasEvents)

def eventCount (h : Host) (pointer : ServerPointer) : Nat :=
  ((h.server? pointer).map (·.eventCount)).getD 0

/-- Takes the oldest event and writes it to the caller's record; gives whether there was one, and
    the record. The arguments are checked before an event is taken. -/
def nextEvent (h : Host) (pointer : ServerPointer) (record : Option EventRecord) :
    (Bool × Option EventRecord) × Host :=
  h.run do
    let server ← refusing (false, record) (h.resolve pointer)
    match record with
    | none => .error ⟨.nullPointer "event", (false, none)⟩
    | some r =>
      refusing (false, record) r.check
      let (event, server) := server.popEvent
      return ((!event.isNothing, some (r.write event)), server)

inductive FrameKind where
  | text
  | binary
  | compressedText
  deriving DecidableEq, Repr

def send (h : Host) (pointer : ServerPointer) (id : TextPointer) (data : DataPointer)
    (length : Nat) (kind : FrameKind) : SendStatus × Host :=
  h.run do
    let server ← refusing .notFound (h.resolve pointer)
    let id ← refusing .notFound (id.readConnectionId "connection_id")
    let data ← refusing .dropped (data.read length)
    return match kind with
      | .text => server.sendText id data
      | .binary => server.sendBinary id data
      | .compressedText => server.sendCompressedText id data

def broadcast (h : Host) (pointer : ServerPointer) (data : DataPointer) (length : Nat)
    (kind : FrameKind) : BroadcastStatus × Host :=
  h.run do
    let server ← refusing .dropped (h.resolve pointer)
    let data ← refusing .dropped (data.read length)
    return match kind with
      | .text => server.broadcastText data
      | .binary => server.broadcastBinary data
      | .compressedText => server.broadcastCompressedText data

def disconnect (h : Host) (pointer : ServerPointer) (id : TextPointer) : Bool × Host :=
  h.run do
    let server ← refusing false (h.resolve pointer)
    let id ← refusing false (id.readConnectionId "connection_id")
    return server.disconnect id

def clientCount (h : Host) (pointer : ServerPointer) : Nat :=
  ((h.server? pointer).map (·.clientCount)).getD 0

def purge (h : Host) (pointer : ServerPointer) : Nat × Host :=
  match h.server? pointer with
  | some server =>
    let (removed, server) := server.purge
    (removed, { h with server := some server })
  | none => (0, h)

def hasRequest (h : Host) (pointer : ServerPointer) (id : TextPointer) : Bool × Host :=
  h.ask do
    let server ← refusing false (h.resolve pointer)
    let id ← refusing false (id.readRequestId "request_id")
    return server.hasRequest id

def copyField (h : Host) (pointer : ServerPointer) (id : TextPointer) (field : FieldArgument)
    (buffer : BufferPointer) : (Bool × BufferPointer) × Host :=
  h.ask do
    let room ← refusing (false, buffer) buffer.read
    let cleared := Server.clearFirst room
    refusing (false, some cleared) do
      let server ← h.resolve pointer
      let id ← id.readRequestId "request_id"
      let field ← field.read
      let (isWhole, buffer) := server.copyRequestField id field cleared
      return (isWhole, some buffer)

def target (h : Host) (pointer : ServerPointer) (id : TextPointer) :
    Except Failure (Server × RequestId) := do
  let server ← h.resolve pointer
  let id ← id.readRequestId "request_id"
  return (server, id)

def withBody (h : Host) (pointer : ServerPointer) (id : TextPointer) (data : DataPointer)
    (length : Nat) (call : Server → RequestId → Bytes → ResponseStatus × Server) :
    ResponseStatus × Host :=
  h.run do
    let (server, id) ← refusing .noSuchRequest (h.target pointer id)
    let data ← refusing .noSuchRequest (data.read length)
    return call server id data

def write (h : Host) (pointer : ServerPointer) (id : TextPointer) (data : DataPointer)
    (length : Nat) : ResponseStatus × Host :=
  h.withBody pointer id data length Server.write

def finish (h : Host) (pointer : ServerPointer) (id : TextPointer) (data : DataPointer)
    (length : Nat) : ResponseStatus × Host :=
  h.withBody pointer id data length Server.finish

def tryEnd (h : Host) (pointer : ServerPointer) (id : TextPointer) (data : DataPointer)
    (length totalSize : Nat) : ResponseStatus × Host :=
  h.withBody pointer id data length fun server id data => server.tryEnd id data totalSize

def setStatus (h : Host) (pointer : ServerPointer) (id line : TextPointer) : RequestStatus × Host :=
  h.run do
    let (server, id) ← refusing .noSuchRequest (h.target pointer id)
    let line ← refusing .invalidValue (line.read "status")
    return server.setStatus id line

def setHeader (h : Host) (pointer : ServerPointer) (id name value : TextPointer) :
    RequestStatus × Host :=
  h.run do
    let (server, id) ← refusing .noSuchRequest (h.target pointer id)
    let name ← refusing .invalidValue (name.read "name")
    let value ← refusing .invalidValue (value.read "value")
    return server.setHeader id name value

def initLogging (h : Host) (level : TextPointer) (json : Bool) : ErrorCode × Host :=
  let call : Except Failure Logger := do
    let level ← match level with
      | none => .ok "info"
      | some _ => level.read "level"
    (h.logger.install (.withLevel level json)).mapError .ofLog
  match call with
  | .ok logger => (.ok, { h with logger })
  | .error failure => (failure.code, h.fail failure)

end Host

def version : String := "0.1.0"

end Gateway.Abi
