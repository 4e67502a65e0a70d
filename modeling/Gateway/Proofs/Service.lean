import Gateway.Engine
import Mathlib.Logic.Function.Basic

namespace Gateway

open Http (Headers Method StatusCode Uri)
open WebSocket (Closure Message Outbound)

/-- What runs under an identifier. An identifier is given out once, for a session or for a request. -/
inductive Task where
  | unused
  | refused
  /-- A session on its line; if it writes, since when and on what event. -/
  | session (line : Nat) (session : Session) (writing : Option (Nat × SessionEvent))
  | ended
  /-- A session whose task broke off, because it could not tell when it acts next. -/
  | failed
  /-- The connection's side of a request: the number of the response, whether the body of the request
      is still read, and whether the request is given up when the connection lets go of it. -/
  | request (response : Nat) (isReading isGuarded : Bool)
  deriving DecidableEq, Repr

/-- What the connection of a request does next. -/
inductive RequestMove where
  | arrive (method : Method) (uri : Uri) (headers : Headers)
  | bodyPart (data : Bytes)
  | bodyEnd
  | bodyLost
  | pollHead
  | pollBody
  | hangUp
  /-- The request is let go, which gives it up if it is still in flight. -/
  | letGo
  deriving DecidableEq, Repr

/-- A call of the host. -/
inductive HostMove where
  | addRoute (verb : Verb) (pattern : String)
  | closeConnections (closure : Closure)
  | reopen
  | purge
  | send (id : ConnectionId) (frame : Outbound)
  | broadcast (frame : Outbound)
  | disconnect (id : ConnectionId) (closure : Closure)
  | setStatus (id : RequestId) (line : String)
  | setHeader (id : RequestId) (name value : String)
  | write (id : RequestId) (data : Bytes)
  | tryEnd (id : RequestId) (data : Bytes) (totalSize : Nat)
  | finish (id : RequestId) (data : Bytes)
  | abortAll (status : StatusCode)
  | tell (kind : EventKind) (payload : Bytes)
  deriving DecidableEq, Repr

/-- One move of a run: what a task does without another one coming between. Any of them may make the next. -/
inductive Move where
  | session (id : Uuid) (move : SessionMove)
  | request (id : Uuid) (move : RequestMove)
  | host (move : HostMove)
  | pop
  | drain (count : Nat)
  deriving DecidableEq, Repr

/-- An engine and its tasks, with the events that the host has taken. -/
structure Service where
  engine : Engine
  task : Uuid → Task
  pulled : List Envelope

def HostMove.apply (e : Engine) : HostMove → Engine
  | addRoute verb pattern => e.addRoute verb pattern
  | closeConnections closure => (e.closeConnections closure).2
  | reopen => e.reopen
  | purge => e.purge.2
  | send id frame => (e.send id frame).2
  | broadcast frame => (e.broadcast frame).2
  | disconnect id closure => (e.disconnect id closure).2
  | setStatus id line => (e.withRequests (·.setStatus id line)).2
  | setHeader id name value => (e.withRequests (·.setHeader id name value)).2
  | write id data => (e.withRequests (·.write id data)).2
  | tryEnd id data totalSize => (e.withRequests (·.tryEnd id data totalSize)).2
  | finish id data => (e.withRequests (·.finish id data)).2
  | abortAll status => (e.withRequests (·.abortAll status)).2
  | tell kind payload => e.emitServer kind payload

namespace Service

def start (config : ServerConfig) : Service := ⟨.start config, fun _ => .unused, []⟩

def setTask (v : Service) (id : Uuid) (task : Task) : Service :=
  { v with task := Function.update v.task id task }

def startSession (v : Service) (id : Uuid) (config : SessionConfig) (now : Nat) : Service :=
  let (line, engine) := v.engine.openSession ⟨id⟩
  let task := match line with
    | some line => .session line (.start config now) none
    | none => .refused
  { v with engine }.setTask id task

def complete (v : Service) (id : Uuid) (line : Nat) (step : SessionStep) : Service :=
  let engine := v.engine.applyStep ⟨id⟩ line step
  if step.isOver then
    { v with engine := engine.closeSession ⟨id⟩ line step.session }.setTask id .ended
  else { v with engine }.setTask id (.session line step.session none)

def notice (v : Service) (id : Uuid) (line : Nat) (session : Session) (now : Nat) (event : SessionEvent) :
    Service :=
  let v := { v with engine := v.engine.noticed line event }
  match session.frameOf now event with
  | some _ => v.setTask id (.session line session (some (now, event)))
  | none => v.complete id line (session.step now event (some now))

/-- A session breaks off: its connection is gone and nothing is received from its line any more, but
    nobody is told. -/
def fail (v : Service) (id : Uuid) (line : Nat) : Service :=
  { v with engine := v.engine.modifyLine line Line.hangUp }.setTask id .failed

def moveSession (v : Service) (id : Uuid) (move : SessionMove) : Service :=
  match v.task id, move with
  | .unused, .start config now => v.startSession id config now
  | .session line session (some (since, event)), .written time =>
    v.complete id line (session.step since event time)
  | .session line session none, move =>
    match session.event? v.engine line move with
    | some (now, event) => v.notice id line session now event
    | none => if session.breaksOff move then v.fail id line else v
  | _, _ => v

def moveRequest (v : Service) (id : Uuid) (move : RequestMove) : Service :=
  match v.task id, move with
  | .unused, .arrive method uri headers =>
    match v.engine.handleRequest ⟨id⟩ method uri headers with
    | (.dispatched n, engine) => { v with engine }.setTask id (.request n true true)
    | (_, engine) => { v with engine }
  | .request _ true _, .bodyPart data => { v with engine := v.engine.receiveBody ⟨id⟩ data }
  | .request n true isGuarded, .bodyEnd =>
    { v with engine := v.engine.receiveBodyEnd ⟨id⟩ }.setTask id (.request n false isGuarded)
  | .request n true isGuarded, .bodyLost => v.setTask id (.request n false isGuarded)
  | .request n _ true, .pollHead => { v with engine := (v.engine.pollHead n).2 }
  | .request n _ true, .pollBody => { v with engine := (v.engine.pollBody ⟨id⟩ n).2 }
  | .request n _ true, .hangUp => { v with engine := v.engine.dropBody n }
  | .request n isReading true, .letGo =>
    { v with engine := (v.engine.dropBody n).abandonRequest ⟨id⟩ }.setTask id (.request n isReading false)
  | _, _ => v

def step (v : Service) : Move → Service
  | .session id move => v.moveSession id move
  | .request id move => v.moveRequest id move
  | .host move => { v with engine := move.apply v.engine }
  | .pop =>
    { v with
      engine := (v.engine.withQueue EventQueue.pop).2
      pulled := v.pulled ++ v.engine.queue.peek?.toList }
  | .drain count =>
    let (taken, engine) := v.engine.withQueue (·.drain count)
    { v with engine, pulled := v.pulled ++ taken }

def run (v : Service) (moves : List Move) : Service := moves.foldl step v

def history (v : Service) : List Envelope := v.pulled ++ v.engine.queue.events

def told (v : Service) (id : Uuid) : List Envelope := v.history.filter (·.id == id.text)

def limit (v : Service) : Nat := v.engine.queue.maxPayload

def envelope (v : Service) (id : Uuid) (kind : EventKind) (payload : Bytes) : Envelope :=
  .capped kind id.text payload v.limit

@[simp] theorem run_nil (v : Service) : v.run [] = v := rfl

@[simp] theorem run_cons (v : Service) (move : Move) (moves : List Move) :
    v.run (move :: moves) = (v.step move).run moves := rfl

end Service

end Gateway
