import Gateway.Engine
import Gateway.WebSocket.Endpoint

namespace Gateway

open WebSocket (Endpoint Message)

structure LoopbackClient where
  endpoint : Endpoint
  /-- Whether it does not read, and so answers nothing. -/
  isPaused : Bool
  /-- Whether it has seen the end of the connection. -/
  isDone : Bool
  deriving DecidableEq, Repr

/-- A connection: the session at one end, until it is over, and the client at the other, until it
    vanishes. -/
structure LoopbackLink where
  id : ConnectionId
  line : Nat
  session : Option Session
  server : Endpoint
  client : Option LoopbackClient
  /-- The frames on their way to the server, the first of them first. -/
  toServer : List Message
  toClient : List Message
  /-- When the session began to write a frame that has not found room yet, and on what event. -/
  stalled : Option (Nat × SessionEvent)
  deriving DecidableEq, Repr

inductive LoopbackArrival where
  | frame (message : Message)
  /-- The end of the stream, after both ends have closed. -/
  | ended
  | reset
  deriving DecidableEq, Repr

structure LoopbackNote where
  id : ConnectionId
  arrival : LoopbackArrival
  time : Nat
  deriving DecidableEq, Repr

/-- Connections of which both ends are in one process, with the engine that serves them. The clock moves only when it
    is told to, and after each move everything happens that can, until all is quiet. -/
structure Loopback where
  engine : Engine
  sessions : SessionConfig
  /-- The greatest payload of a frame that the server reads. -/
  maxMessage : Nat
  links : List LoopbackLink
  now : Nat
  /-- What the clients have seen, the first of it first. -/
  notes : List LoopbackNote
  deriving DecidableEq, Repr

namespace LoopbackLink

def clientMaxFrame : Nat := 16 * 1024 * 1024

def connected (id : ConnectionId) (line maxMessage : Nat) (session : Option Session)
    (isPaused : Bool) : LoopbackLink where
  id := id
  line := line
  session := session
  server := .opened .server maxMessage
  client := some ⟨.opened .client clientMaxFrame, isPaused, false⟩
  toServer := []
  toClient := []
  stalled := none

def canWrite (l : LoopbackLink) : Bool := l.server.canWrite l.client.isSome

def capacity : Nat := 4 * 1024 * 1024

def totalSize (isMasked : Bool) (frames : List Message) : Nat :=
  frames.foldl (fun n frame => n + frame.frameSize isMasked) 0

def hasRoom (l : LoopbackLink) : Bool := totalSize false l.toClient ≤ capacity

/-- Whether a frame of the client gets to the server. One that is stuck halfway when the server
    refuses it does not. -/
def delivers (l : LoopbackLink) (message : Message) : Bool :=
  totalSize true (l.toServer ++ [message]) ≤ capacity || l.server.admits message

def deadline (l : LoopbackLink) : Option Nat :=
  if l.stalled.isSome then none else l.session.bind fun session => session.deadline.join

def clientStep (l : LoopbackLink) : Option (LoopbackLink × Option LoopbackArrival) :=
  match l.client with
  | none => none
  | some client =>
    if client.isPaused || client.isDone then none
    else
      let step := client.endpoint.read l.toClient l.session.isSome
      let l := { l with
        client := some { client with endpoint := step.endpoint }
        toServer := l.toServer ++ step.sent
        toClient := step.rest }
      match step.reading with
      | .frame message => some (l, some (.frame message))
      | .waiting => if step.sent.isEmpty then none else some (l, none)
      | .ended clean =>
        some ({ l with client := some { client with endpoint := step.endpoint, isDone := true } },
          some (if clean then .ended else .reset))

def leave (l : LoopbackLink) : LoopbackLink := { l with session := none, toServer := [], stalled := none }

def apply (l : LoopbackLink) (engine : Engine) (step : SessionStep) : LoopbackLink × Engine :=
  let engine := engine.applyStep l.id l.line step
  if step.isOver then (l.leave, engine.closeSession l.id l.line step.session)
  else ({ l with session := some step.session, stalled := none }, engine)

def handle (l : LoopbackLink) (engine : Engine) (session : Session) (now : Nat)
    (event : SessionEvent) : LoopbackLink × Engine :=
  match session.frameOf now event with
  | none => l.apply engine (session.step now event (some now))
  | some message =>
    if !l.canWrite then l.apply engine (session.step now event none)
    else
      let (server, sent) := l.server.write message l.client.isSome
      let l := { l with server, toClient := l.toClient ++ sent }
      if l.hasRoom then l.apply engine (session.step now event (some now))
      else ({ l with stalled := some (now, event) }, engine)

/-- What a session does when nothing can be read: it takes a frame of the host, notices that nobody
    can send any more, or acts on a deadline that has passed. -/
def idleStep (l : LoopbackLink) (engine : Engine) (session : Session) (now : Nat) :
    Option (LoopbackLink × Engine) :=
  (session.event? engine l.line (.take now) <|> session.event? engine l.line (.wake now)).map
    fun (time, event) => l.handle (engine.noticed l.line event) session time event

def freeStep (l : LoopbackLink) (engine : Engine) (session : Session) (now : Nat) :
    Option (LoopbackLink × Engine) :=
  let step := l.server.read l.toServer l.client.isSome
  let read := { l with
    server := step.endpoint
    toServer := step.rest
    toClient := l.toClient ++ step.sent }
  match step.reading with
  | .frame message => some (read.handle engine session now (.frame message))
  | .ended _ => some (read.handle engine session now .readEnd)
  | .waiting => if step.sent.isEmpty then l.idleStep engine session now else some (read, engine)

/-- The next thing that the server does on this connection. A frame that is being written is lost
    when the client vanishes. A session that cannot tell when it acts next breaks off. -/
def serverStep (l : LoopbackLink) (engine : Engine) (now : Nat) : Option (LoopbackLink × Engine) :=
  match l.session, l.stalled with
  | none, _ => none
  | some session, none =>
    if session.deadline.isNone then some (l.leave, engine.modifyLine l.line Line.hangUp)
    else l.freeStep engine session now
  | some session, some (since, event) =>
    if l.client.isNone then some (l.apply engine (session.step since event none))
    else if l.hasRoom then some (l.apply engine (session.step since event (some now)))
    else none

end LoopbackLink

namespace Loopback

def start (config : ServerConfig) (sessions : SessionConfig) (maxMessage : Nat) : Loopback :=
  ⟨.start config, sessions, maxMessage, [], 0, []⟩

def stepLinks (now : Nat) (engine : Engine) (before : List LoopbackLink) :
    List LoopbackLink → Option (List LoopbackLink × Engine × Option LoopbackNote)
  | [] => none
  | l :: rest =>
    match l.clientStep with
    | some (l, arrival) =>
      some (before ++ l :: rest, engine, arrival.map fun arrival => ⟨l.id, arrival, now⟩)
    | none =>
      match l.serverStep engine now with
      | some (l, engine) => some (before ++ l :: rest, engine, none)
      | none => stepLinks now engine (before ++ [l]) rest

def settleWithin (now : Nat) : Nat → Loopback → Loopback
  | 0, w => w
  | steps + 1, w =>
    match stepLinks now w.engine [] w.links with
    | some (links, engine, note) =>
      settleWithin now steps { w with links, engine, notes := w.notes ++ note.toList }
    | none => w

def backlog (w : Loopback) : Nat :=
  w.links.foldl (fun n l =>
    let queued := ((w.engine.connections.line? l.line).map (·.queued.length)).getD 0
    n + 8 * (l.toServer.length + l.toClient.length + queued) + 16) 16

def settleAt (now : Nat) (w : Loopback) : Loopback := settleWithin now w.backlog w

def settle (w : Loopback) : Loopback := w.settleAt w.now

def nextDeadline (w : Loopback) : Option Nat :=
  Session.earliest (w.links.map LoopbackLink.deadline)

def passTime (target now : Nat) (w : Loopback) : Loopback :=
  match w.nextDeadline with
  | some deadline =>
    if now < deadline ∧ deadline ≤ target then passTime target deadline (w.settleAt deadline)
    else { w with now := target }.settle
  | none => { w with now := target }.settle
  termination_by target - now
  decreasing_by omega

def advance (w : Loopback) (milliseconds : Nat) : Loopback :=
  w.passTime (w.now + milliseconds) w.now

def modifyClient (w : Loopback) (id : ConnectionId) (f : LoopbackLink → LoopbackLink) : Loopback :=
  { w with links := w.links.map fun l => if l.id = id && l.client.isSome then f l else l }

def drop (w : Loopback) (id : ConnectionId) : Loopback :=
  w.modifyClient id fun l => { l with client := none }

def connect (w : Loopback) (id : ConnectionId) (isPaused : Bool) : Loopback :=
  let (line, engine) := w.engine.openSession id
  let session := line.map fun _ => Session.start w.sessions w.now
  let link := LoopbackLink.connected id (line.getD 0) w.maxMessage session isPaused
  let w := w.drop id
  { w with engine, links := w.links ++ [link] }

def setPaused (w : Loopback) (id : ConnectionId) (isPaused : Bool) : Loopback :=
  w.modifyClient id fun l =>
    { l with client := l.client.map fun client => { client with isPaused } }

inductive Sending where
  | sent
  | failed
  | gone
  deriving DecidableEq, Repr

instance : Named Sending where
  all := [.sent, .failed, .gone]
  name
    | .sent => "sent"
    | .failed => "failed"
    | .gone => "gone"
  mem_all := by intro a; cases a <;> decide
  name_injective := by intro a b; cases a <;> cases b <;> decide

def client? (w : Loopback) (id : ConnectionId) : Option (LoopbackLink × LoopbackClient) :=
  w.links.findSome? fun l => if l.id = id then l.client.map fun client => (l, client) else none

def clientSend (w : Loopback) (id : ConnectionId) (message : Message) : Sending × Loopback :=
  match w.client? id with
  | none => (.gone, w)
  | some (l, client) =>
    if client.isDone then (.failed, w)
    else
      let (endpoint, sent) := client.endpoint.write message l.session.isSome
      (if sent.isEmpty || !l.delivers message then .failed else .sent,
        w.modifyClient id fun l => { l with
          client := some { client with endpoint }
          toServer := l.toServer ++ sent })

def withEngine {α : Type} (w : Loopback) (f : Engine → α × Engine) : α × Loopback :=
  let (answer, engine) := f w.engine
  (answer, { w with engine })

def isRunning (w : Loopback) (id : ConnectionId) : Bool :=
  w.links.any fun l => l.id = id && l.session.isSome

def takeNotes (w : Loopback) : List LoopbackNote × Loopback := (w.notes, { w with notes := [] })

end Loopback

end Gateway
