import Gateway.WebSocket.Message

namespace Gateway.WebSocket

inductive Role where
  | server
  | client
  deriving DecidableEq, Repr

inductive Phase where
  | active
  | closedByUs
  | closedByPeer
  /-- It has received the answer to the close that it sent. -/
  | acknowledged
  | terminated
  deriving DecidableEq, Repr

def Closure.isAllowed (c : Closure) : Bool :=
  let code := c.code.toNat
  1000 ≤ code && code ≤ 1003 || 1007 ≤ code && code ≤ 1013 || 3000 ≤ code && code ≤ 4999

def Closure.violation : Closure := .of .protocol "Protocol violation"

structure Endpoint where
  role : Role
  phase : Phase
  /-- The answer that is to be sent before anything is read. -/
  reply : Option Message
  /-- The greatest payload of a frame that it reads. -/
  maxFrame : Nat
  deriving DecidableEq, Repr

inductive Reading where
  | frame (message : Message)
  | waiting
  /-- Nothing more can be read; `clean` if both ends have closed. -/
  | ended (clean : Bool)
  deriving DecidableEq, Repr

/-- Reading from a stream: what it gives, the end after it, the frames left in the stream, and those
    sent meanwhile. -/
structure ReadStep where
  reading : Reading
  endpoint : Endpoint
  rest : List Message
  sent : List Message
  deriving DecidableEq, Repr

namespace Endpoint

def opened (role : Role) (maxFrame : Nat) : Endpoint := ⟨role, .active, none, maxFrame⟩

def isActive (e : Endpoint) : Bool := e.phase == .active

def canRead (e : Endpoint) : Bool := e.phase == .active || e.phase == .closedByUs

def isClosed (e : Endpoint) : Bool := e.phase == .closedByPeer || e.phase == .acknowledged

def maxControl : Nat := 125

def admits (e : Endpoint) (message : Message) : Bool :=
  let size := message.payload.length
  size ≤ e.maxFrame && (!message.isControl || size ≤ maxControl)

def receive (e : Endpoint) (message : Message) : Message × Endpoint :=
  match message with
  | .ping data => (message, if e.isActive then { e with reply := some (.pong data) } else e)
  | .close closure? =>
    if e.isActive then
      let seen := .close (closure?.map fun c => if c.isAllowed then c else .violation)
      (seen, { e with phase := .closedByPeer, reply := some seen })
    else (message, { e with phase := .acknowledged })
  | _ => (message, e)

/-- Reads a frame, after `sent` was sent; `isPeerThere` tells whether more frames can come. A frame that
    is refused stays in the stream. -/
def take (e : Endpoint) (stream sent : List Message) (isPeerThere : Bool) : ReadStep :=
  match stream with
  | [] =>
    if isPeerThere then ⟨.waiting, e, [], sent⟩
    else ⟨.ended e.isClosed, { e with phase := .terminated }, [], sent⟩
  | message :: rest =>
    if e.admits message && e.canRead then
      let (seen, e) := e.receive message
      ⟨.frame seen, e, rest, sent⟩
    else ⟨.ended false, e, stream, sent⟩

def endsStream (e : Endpoint) : Bool := e.role == .server && !e.canRead

def read (e : Endpoint) (stream : List Message) (isPeerThere : Bool) : ReadStep :=
  match e.phase, e.reply with
  | .terminated, _ => ⟨.ended true, e, stream, []⟩
  | _, some reply =>
    if !isPeerThere then ⟨.ended false, e, stream, []⟩
    else
      let e := { e with reply := none }
      if e.endsStream then ⟨.ended true, { e with phase := .terminated }, stream, [reply]⟩
      else e.take stream [reply] isPeerThere
  | _, none =>
    if e.endsStream then ⟨.ended true, { e with phase := .terminated }, stream, []⟩
    else e.take stream [] isPeerThere

def canWrite (e : Endpoint) (isPeerThere : Bool) : Bool := e.isActive && isPeerThere

/-- Writes a frame: the end after it, and what goes out. After a close nothing more does. -/
def write (e : Endpoint) (message : Message) (isPeerThere : Bool) : Endpoint × List Message :=
  if !e.isActive then (e, [])
  else
    let e := match message with
      | .close _ => { e with phase := .closedByUs }
      | _ => e
    (e, if isPeerThere then [message] else [])

end Endpoint

end Gateway.WebSocket
