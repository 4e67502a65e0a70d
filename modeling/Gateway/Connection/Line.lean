import Gateway.Id
import Gateway.Status
import Gateway.WebSocket.Message

namespace Gateway

open WebSocket (Outbound Closure CloseCode)

/-- How much may wait on one connection, and what happens when more does. -/
structure BackpressurePolicy where
  maxBackpressure : Nat := 64 * 1024
  closeOnLimit : Bool := false
  deriving DecidableEq, Repr

structure Line where
  id : ConnectionId
  /-- The frames that the session has not taken, oldest first. -/
  queued : List Outbound
  /-- The number of bytes that are not flushed to the client. -/
  buffered : Nat
  receiving : Bool
  held : Bool
  deriving DecidableEq, Repr

namespace Line

def opened (id : ConnectionId) : Line := ⟨id, [], 0, true, false⟩

def isClosed (line : Line) : Bool := !line.receiving

def close (line : Line) (closure : Closure) : Bool × Line :=
  if line.receiving then (true, { line with queued := line.queued ++ [.close closure] })
  else (false, line)

def overLimit : Closure := .of .policyViolation "backpressure limit exceeded"

def send (line : Line) (frame : Outbound) (policy : BackpressurePolicy) : SendStatus × Line :=
  if !line.receiving then (.dropped, line)
  else if policy.maxBackpressure < line.buffered then
    (.dropped, if policy.closeOnLimit then (line.close overLimit).2 else line)
  else
    let buffered := line.buffered + frame.size
    (if policy.maxBackpressure < buffered then .backpressure else .success,
      { line with queued := line.queued ++ [frame], buffered := buffered })

def take? (line : Line) : Option (Outbound × Line) :=
  match line.queued with
  | [] => none
  | frame :: rest => some (frame, { line with queued := rest })

def advance (line : Line) : Line := { line with queued := line.queued.tail }

def flush (line : Line) (size : Nat) : Line := { line with buffered := line.buffered - size }

def hangUp (line : Line) : Line := { line with receiving := false, queued := [] }

def hold (line : Line) : Line := { line with held := true }

def release (line : Line) : Line := { line with held := false }

end Line

end Gateway
