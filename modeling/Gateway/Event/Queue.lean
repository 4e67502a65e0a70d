import Gateway.Event

namespace Gateway

/-- The events that the host has not pulled yet, oldest first. -/
structure EventQueue where
  /-- The greatest payload of an event that `emit` adds. -/
  maxPayload : Nat
  events : List Envelope
  deriving DecidableEq, Repr

namespace EventQueue

def empty (maxPayload : Nat) : EventQueue := ⟨maxPayload, []⟩

def length (q : EventQueue) : Nat := q.events.length

def isEmpty (q : EventQueue) : Bool := q.events.isEmpty

def hasEvents (q : EventQueue) : Bool := !q.isEmpty

def push (q : EventQueue) (e : Envelope) : EventQueue := { q with events := q.events ++ [e] }

/-- Adds an event with its payload cut to the queue's limit, and tells whether it was cut. -/
def emit (q : EventQueue) (kind : EventKind) (id : String) (payload : Bytes) : Bool × EventQueue :=
  let e := Envelope.capped kind id payload q.maxPayload
  (e.truncated, q.push e)

def pop (q : EventQueue) : Envelope × EventQueue :=
  match q.events with
  | [] => (.nothing, q)
  | e :: rest => (e, { q with events := rest })

def peek? (q : EventQueue) : Option Envelope := q.events.head?

def drain (q : EventQueue) (n : Nat) : List Envelope × EventQueue :=
  (q.events.take n, { q with events := q.events.drop n })

def clear (q : EventQueue) : Nat × EventQueue := (q.length, { q with events := [] })

@[simp] theorem events_push (q : EventQueue) (e : Envelope) :
    (q.push e).events = q.events ++ [e] := rfl

@[simp] theorem events_emit (q : EventQueue) (kind : EventKind) (id : String) (payload : Bytes) :
    (q.emit kind id payload).2.events = q.events ++ [.capped kind id payload q.maxPayload] := rfl

end EventQueue

end Gateway
