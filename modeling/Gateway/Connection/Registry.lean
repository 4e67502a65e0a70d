import Gateway.Connection.Line

namespace Gateway

open WebSocket (Outbound Closure)

/-- A registered connection: live, with the number of its line, or faded. -/
inductive ConnectionEntry where
  | live (line : Nat)
  | faded
  deriving DecidableEq, Repr

def ConnectionEntry.isFaded : ConnectionEntry → Bool
  | live _ => false
  | faded => true

def ConnectionEntry.line? : ConnectionEntry → Option Nat
  | live line => some line
  | faded => none

/-- The connections of a server, in the order of registration, and all lines that were opened. -/
structure ConnectionRegistry where
  policy : BackpressurePolicy
  accepting : Bool
  entries : List (ConnectionId × ConnectionEntry)
  lines : List Line
  totalRegistered : Nat
  totalPurged : Nat
  deriving DecidableEq, Repr

namespace ConnectionRegistry

def empty (policy : BackpressurePolicy) : ConnectionRegistry := ⟨policy, true, [], [], 0, 0⟩

def openLine (r : ConnectionRegistry) (id : ConnectionId) : Nat × ConnectionRegistry :=
  (r.lines.length, { r with lines := r.lines ++ [.opened id] })

def line? (r : ConnectionRegistry) (n : Nat) : Option Line := r.lines[n]?

def modifyLine (r : ConnectionRegistry) (n : Nat) (f : Line → Line) : ConnectionRegistry :=
  { r with lines := r.lines.modify n f }

def find? (r : ConnectionRegistry) (id : ConnectionId) : Option ConnectionEntry :=
  (r.entries.find? (·.1 == id)).map (·.2)

def contains (r : ConnectionRegistry) (id : ConnectionId) : Bool := (r.find? id).isSome

/-- Registers a connection, unless the registry is shut down or the identifier is taken. If it is
    registered, its caller acts on what it has before anything else can happen to the connection. -/
def registerThen {α : Type} (r : ConnectionRegistry) (id : ConnectionId) (line : Nat)
    (onRegistered : α → α) (a : α) : Bool × α × ConnectionRegistry :=
  if !r.accepting || r.contains id then (false, a, r)
  else
    (true, onRegistered a, { r with
      entries := r.entries ++ [(id, .live line)]
      totalRegistered := r.totalRegistered + 1 })

def register (r : ConnectionRegistry) (id : ConnectionId) (line : Nat) : Bool × ConnectionRegistry :=
  let (accepted, _, r) := r.registerThen id line (fun nothing => nothing) ()
  (accepted, r)

def liveLine? (r : ConnectionRegistry) (id : ConnectionId) : Option Nat :=
  match r.find? id with
  | some entry => entry.line?
  | none => none

def fade (r : ConnectionRegistry) (id : ConnectionId) : Bool × ConnectionRegistry :=
  match r.liveLine? id with
  | some _ =>
    (true, { r with entries := r.entries.map fun e => if e.1 = id then (e.1, .faded) else e })
  | none => (false, r)

def purge (r : ConnectionRegistry) : Nat × ConnectionRegistry :=
  let removed := r.entries.countP (·.2.isFaded)
  (removed, { r with
    entries := r.entries.filter (!·.2.isFaded)
    totalPurged := r.totalPurged + removed })

def reopen (r : ConnectionRegistry) : ConnectionRegistry := { r with accepting := true }

def count (r : ConnectionRegistry) : Nat := r.entries.length

def live (r : ConnectionRegistry) : List (ConnectionId × Nat) :=
  r.entries.filterMap fun (id, entry) => entry.line?.map fun line => (id, line)

def liveCount (r : ConnectionRegistry) : Nat := r.live.length

def fadedCount (r : ConnectionRegistry) : Nat := r.entries.countP (·.2.isFaded)

def isEmpty (r : ConnectionRegistry) : Bool := r.entries.isEmpty

def sendLine (r : ConnectionRegistry) (n : Nat) (frame : Outbound) (policy : BackpressurePolicy) :
    SendStatus × ConnectionRegistry :=
  match r.line? n with
  | some line =>
    let (status, line) := line.send frame policy
    (status, r.modifyLine n fun _ => line)
  | none => (.dropped, r)

def send (r : ConnectionRegistry) (id : ConnectionId) (frame : Outbound) :
    SendStatus × ConnectionRegistry :=
  match r.liveLine? id with
  | some n => r.sendLine n frame r.policy
  | none => (.notFound, r)

def sendLines (frame : Outbound) : List Nat → ConnectionRegistry → List SendStatus × ConnectionRegistry
  | [], r => ([], r)
  | n :: rest, r =>
    let (status, r) := r.sendLine n frame r.policy
    let (statuses, r) := sendLines frame rest r
    (status :: statuses, r)

def broadcast (r : ConnectionRegistry) (frame : Outbound) : List SendStatus × ConnectionRegistry :=
  sendLines frame (r.live.map (·.2)) r

def disconnect (r : ConnectionRegistry) (id : ConnectionId) (closure : Closure) :
    Bool × ConnectionRegistry :=
  match r.liveLine? id with
  | some n =>
    match r.line? n with
    | some line =>
      let (queued, line) := line.close closure
      (queued, r.modifyLine n fun _ => line)
    | none => (false, r)
  | none => (false, r)

def closeLines (closure : Closure) : List Nat → ConnectionRegistry → ConnectionRegistry
  | [], r => r
  | n :: rest, r => closeLines closure rest (r.modifyLine n fun line => (line.close closure).2)

/-- Stops taking registrations, closes every live connection and lets it fade; gives those that
    were live. -/
def shutDown (r : ConnectionRegistry) (closure : Closure) : List ConnectionId × ConnectionRegistry :=
  let live := r.live
  let r := closeLines closure (live.map (·.2)) r
  (live.map (·.1), { r with
    accepting := false
    entries := r.entries.map fun e => (e.1, .faded) })

/-- Whether nobody can send along a line any more: it belongs to no live connection, and nobody
    else holds it. -/
def isAbandoned (r : ConnectionRegistry) (n : Nat) : Bool :=
  match r.line? n with
  | some line => !line.held && !r.live.any (·.2 == n)
  | none => true

end ConnectionRegistry

namespace BroadcastStatus

def ofDeliveries : List SendStatus → BroadcastStatus
  | [] => noRecipients
  | deliveries => deliveries.foldl merge success

end BroadcastStatus

end Gateway
