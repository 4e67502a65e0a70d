import Gateway.Http.Head
import Gateway.Request.Exchange

namespace Gateway

open WebSocket (Outbound)

structure Switchboard where
  engine : Engine
  /-- The lines that the caller receives from, in place of a session. -/
  receivers : List (ConnectionId × Nat)
  /-- The lines that the caller may send on without the registry. -/
  handles : List (ConnectionId × Nat)
  exchanges : List (RequestId × Exchange)

inductive Reception where
  | frame (frame : Outbound)
  | pending
  | closed
  deriving DecidableEq, Repr

namespace Switchboard

def start (config : ServerConfig) : Switchboard := ⟨.start config, [], [], []⟩

def forget {κ α : Type} [BEq κ] (kept : List (κ × α)) (id : κ) : List (κ × α) :=
  kept.filter (·.1 != id)

def keep {κ α : Type} [BEq κ] (kept : List (κ × α)) (id : κ) (value : α) : List (κ × α) :=
  (id, value) :: forget kept id

def line? (b : Switchboard) (n : Nat) : Option Line := b.engine.connections.line? n

def liveLine? (b : Switchboard) (id : ConnectionId) : Option Line :=
  (b.engine.connections.liveLine? id).bind b.line?

def modifyLine (b : Switchboard) (n : Nat) (f : Line → Line) : Switchboard :=
  { b with engine := b.engine.modifyLine n f }

def dropReceiver (b : Switchboard) (id : ConnectionId) : Bool × Switchboard :=
  match b.receivers.lookup id with
  | some n => (true, { b.modifyLine n Line.hangUp with receivers := forget b.receivers id })
  | none => (false, b)

def dropHandle (b : Switchboard) (id : ConnectionId) : Bool × Switchboard :=
  match b.handles.lookup id with
  | some n => (true, { b.modifyLine n Line.release with handles := forget b.handles id })
  | none => (false, b)

/-- Opens a line and registers it. If the line is accepted its receiver is kept, and the handle too
    if it is asked for; if not, both are gone. -/
def register (b : Switchboard) (id : ConnectionId) (keepHandle : Bool) : Bool × Switchboard :=
  let (n, engine) := b.engine.openLine id
  let (accepted, engine) := engine.register id n
  let b := { b with engine }
  if accepted then
    let b := (b.dropReceiver id).2
    let b := { b with receivers := keep b.receivers id n }
    if keepHandle then
      let b := (b.dropHandle id).2.modifyLine n Line.hold
      (true, { b with handles := keep b.handles id n })
    else (true, b)
  else (false, b.modifyLine n Line.hangUp)

def handle? (b : Switchboard) (id : ConnectionId) : Option Line :=
  (b.handles.lookup id).bind b.line?

def sendOnHandle (b : Switchboard) (id : ConnectionId) (frame : Outbound)
    (policy : BackpressurePolicy) : Option SendStatus × Switchboard :=
  match b.handles.lookup id with
  | none => (none, b)
  | some n =>
    let (status, connections) := b.engine.connections.sendLine n frame policy
    (some status, { b with engine := { b.engine with connections } })

def receive (b : Switchboard) (id : ConnectionId) : Option Reception × Switchboard :=
  match b.receivers.lookup id with
  | none => (none, b)
  | some n =>
    match (b.line? n).bind Line.take? with
    | some (frame, line) => (some (.frame frame), b.modifyLine n fun _ => line)
    | none => (some (if b.engine.connections.isAbandoned n then .closed else .pending), b)

def flush (b : Switchboard) (id : ConnectionId) (size : Nat) : Switchboard :=
  match b.receivers.lookup id with
  | some n => b.modifyLine n (·.flush size)
  | none => b

def begin (b : Switchboard) (id : RequestId) (head : Http.RequestHead) (route : String) :
    Bool × Switchboard :=
  match Exchange.begin b.engine id head.method head.uri head.headers route with
  | (none, engine) => (false, { b with engine })
  | (some x, engine) =>
    let engine := match b.exchanges.lookup id with
      | some old => (old.dropBody engine).2.2
      | none => engine
    (true, { b with engine, exchanges := keep b.exchanges id x })

def withExchange {α : Type} (b : Switchboard) (id : RequestId) (unknown : α)
    (f : Exchange → Engine → α × Exchange × Engine) : α × Switchboard :=
  match b.exchanges.lookup id with
  | none => (unknown, b)
  | some x =>
    let (answer, x, engine) := f x b.engine
    (answer, { b with engine, exchanges := keep b.exchanges id x })

def pollHead (b : Switchboard) (id : RequestId) : Option HeadPoll × Switchboard :=
  b.withExchange id none fun x e =>
    let (poll, e) := x.pollHead e
    (poll, x, e)

def openBody (b : Switchboard) (id : RequestId) : Bool × Switchboard :=
  b.withExchange id false fun x e =>
    let (opened, x) := x.openBody
    (opened, x, e)

def pollBody (b : Switchboard) (id : RequestId) : Option BodyPoll × Switchboard :=
  b.withExchange id none fun x e =>
    let (poll, e) := x.pollBody e
    (poll, x, e)

def dropHead (b : Switchboard) (id : RequestId) : Bool × Switchboard :=
  b.withExchange id false fun x e =>
    let (held, x) := x.dropHead
    (held, x, e)

def dropBody (b : Switchboard) (id : RequestId) : Bool × Switchboard :=
  b.withExchange id false Exchange.dropBody

def dropBodies (b : Switchboard) : Switchboard :=
  { b with
    engine := b.exchanges.foldl (fun e (_, x) => (x.dropBody e).2.2) b.engine
    exchanges := [] }

def sizeHint? (b : Switchboard) (id : RequestId) : Option SizeHint :=
  (b.exchanges.lookup id).bind Exchange.sizeHint?

def response? (b : Switchboard) (id : RequestId) : Option Response :=
  (b.exchanges.lookup id).bind fun x => b.engine.requests.response? x.response

end Switchboard

end Gateway
