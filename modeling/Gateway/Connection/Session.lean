import Gateway.WebSocket.Message

namespace Gateway

open WebSocket (Message Outbound Closure CloseCode)

structure SessionConfig where
  idleTimeout : Option Nat := some 120000
  /-- Whether a silent connection is pinged when half of that time is over. -/
  sendPings : Bool := true
  maxLifetime : Option Nat := none
  /-- Whether sending to a client counts as activity. -/
  resetIdleOnSend : Bool := true
  /-- Whether data goes back to the client that sent it. -/
  echo : Bool := false
  deriving DecidableEq, Repr

/-- A session between two steps. Times are in milliseconds. -/
structure Session where
  config : SessionConfig
  openedAt : Nat
  lastActivity : Nat
  /-- Whether a ping was sent since the client was last heard of. -/
  pingSent : Bool
  /-- Since when the connection is being closed. -/
  closing : Option Nat
  /-- Why the connection ends, as far as that is known; a close of the client may give no code. -/
  cause : Option (Option Closure)
  deriving DecidableEq, Repr

inductive SessionEvent where
  | frame (message : Message)
  | readEnd
  | outbound (frame : Outbound)
  /-- Nobody can send along the session's line any more. -/
  | abandoned
  | timer
  deriving DecidableEq, Repr

structure SessionStep where
  /-- The session after the step, whatever becomes of it. -/
  session : Session
  isOver : Bool
  write : Option Message
  /-- The data of a message that the host is told of. -/
  message : Option Bytes
  flushed : Nat
  deriving DecidableEq, Repr

namespace Session

def closeGrace : Nat := 2000

def start (config : SessionConfig) (now : Nat) : Session := ⟨config, now, now, false, none, none⟩

def earliest (times : List (Option Nat)) : Option Nat :=
  match times.filterMap id with
  | [] => none
  | t :: rest => some (rest.foldl min t)

/-- The last point in time, in milliseconds after the clock started: its seconds are a signed 64-bit
    number. -/
def lastInstant : Nat := (1 <<< 63) * 1000 - 1

/-- When a limit that counts from `since` is reached. The sum fails past the last point in time. -/
def reached? (since : Nat) : Option Nat → Option (Option Nat)
  | none => some none
  | some limit => if since + limit ≤ lastInstant then some (some (since + limit)) else none

def pingLimit (s : Session) : Option Nat :=
  if s.config.sendPings && !s.pingSent then s.config.idleTimeout.map fun limit => (limit + 1) / 2
  else none

/-- When the session acts next if nothing else happens. It fails if one of the sums does, also where
    another one is earlier. -/
def deadline (s : Session) : Option (Option Nat) :=
  match s.closing with
  | some since => reached? since (some closeGrace)
  | none => do
    let lifetime ← reached? s.openedAt s.config.maxLifetime
    let idle ← reached? s.lastActivity s.config.idleTimeout
    let ping ← reached? s.lastActivity s.pingLimit
    return earliest [lifetime, idle, ping]

def expired (limit : Option Nat) (since now : Nat) : Bool :=
  match limit with
  | some limit => since + limit ≤ now
  | none => false

def settle (s : Session) (cause : Option Closure) : Session :=
  match s.cause with
  | some _ => s
  | none => { s with cause := some cause }

def continues (s : Session) : SessionStep := ⟨s, false, none, none, 0⟩

def ends (s : Session) : SessionStep := ⟨s, true, none, none, 0⟩

def startClose (s : Session) (now : Nat) (closure : Closure) (written : Option Nat) : SessionStep :=
  let s := { s with closing := some now }.settle (some closure)
  ⟨s, written.isNone, some (.close (some closure)), none, 0⟩

def shuttingDown : Closure := .of .goingAway "server shutting down"

def lifetimeReached : Closure := .of .goingAway "max lifetime reached"

def idleTooLong : Closure := .of .goingAway "idle timeout"

def receive (s : Session) (now : Nat) (message : Message) (written : Option Nat) : SessionStep :=
  let s := { s with lastActivity := now, pingSent := false }
  match message with
  | .text _ | .binary _ =>
    if s.config.echo then
      ⟨s, written.isNone, some message, if written.isSome then some message.payload else none, 0⟩
    else ⟨s, false, none, some message.payload, 0⟩
  | .close closure? => continues (s.settle closure?)
  | .ping _ | .pong _ => continues s

def transmit (s : Session) (now : Nat) (frame : Outbound) (written : Option Nat) : SessionStep :=
  match frame with
  | .close closure => s.startClose now closure written
  | .text _ | .binary _ =>
    let lastActivity := if s.config.resetIdleOnSend then written.getD s.lastActivity else s.lastActivity
    ⟨{ s with lastActivity }, written.isNone, some frame.message, none, frame.size⟩

def wake (s : Session) (now : Nat) (written : Option Nat) : SessionStep :=
  if s.closing.isSome then ends s
  else if expired s.config.maxLifetime s.openedAt now then s.startClose now lifetimeReached written
  else if expired s.config.idleTimeout s.lastActivity now then s.startClose now idleTooLong written
  else if s.pingSent then continues s
  else ⟨{ s with pingSent := true }, written.isNone, some (.ping []), none, 0⟩

/-- One step of a session. `written` tells when the frame that the step writes has gone out, if it
    does: the session waits until then. -/
def step (s : Session) (now : Nat) (event : SessionEvent) (written : Option Nat) : SessionStep :=
  match event with
  | .frame message => s.receive now message written
  | .readEnd => ends s
  | .outbound frame => s.transmit now frame written
  | .abandoned => s.startClose now shuttingDown written
  | .timer => s.wake now written

def frameOf (s : Session) (now : Nat) (event : SessionEvent) : Option Message :=
  (s.step now event (some now)).write

def takesOutbound (s : Session) : Bool := s.closing.isNone

def closePayload (s : Session) : Bytes :=
  match s.cause with
  | some closure? => WebSocket.closePayload closure?
  | none => Closure.payload (.of .abnormal "")

end Session

end Gateway
