import Gateway.Http.Header
import Gateway.Http.Status
import Gateway.Status

namespace Gateway

open Http (StatusCode Headers)

structure ResponseHead where
  status : StatusCode
  headers : Headers
  deriving DecidableEq, Repr

namespace ResponseHead

def initial : ResponseHead := ⟨.ok, []⟩

end ResponseHead

inductive HeadSlot where
  | pending (head : ResponseHead)
  /-- It was sent and not yet taken by the connection. -/
  | ready (head : ResponseHead)
  | taken
  | closed
  deriving DecidableEq, Repr

/-- What is written to one request and not yet taken by its connection. -/
structure Response where
  head : HeadSlot
  /-- The parts of the body that wait, oldest first. -/
  chunks : List Bytes
  isOpen : Bool
  receiving : Bool
  buffered : Nat
  /-- The number of bytes that were ever accepted. -/
  queued : Nat
  /-- Whether the host waits for the body to drain. -/
  writableWanted : Bool
  deriving DecidableEq, Repr

inductive HeadPoll where
  | head (head : ResponseHead)
  | pending
  | closed
  deriving DecidableEq, Repr

/-- What the connection gets when it asks for the next part of the body. -/
inductive BodyPoll where
  | data (chunk : Bytes)
  | pending
  | done
  deriving DecidableEq, Repr

namespace Response

def start : Response := ⟨.pending .initial, [], true, true, 0, 0, false⟩

def headSent (r : Response) : Bool :=
  match r.head with
  | .pending _ => false
  | .ready _ | .taken | .closed => true

def setStatus (r : Response) (line : String) : RequestStatus × Response :=
  match r.head with
  | .pending head =>
    match StatusCode.ofLine? line with
    | some status => (.ok, { r with head := .pending { head with status } })
    | none => (.invalidValue, r)
  | .ready _ | .taken | .closed => (.headersSent, r)

def setHeader (r : Response) (name value : String) : RequestStatus × Response :=
  match r.head with
  | .pending head =>
    match Http.fieldName? name, Http.fieldValue? (Text.bytes value) with
    | some name, some value =>
      (.ok, { r with head := .pending { head with headers := head.headers.append ⟨name, value⟩ } })
    | _, _ => (.invalidValue, r)
  | .ready _ | .taken | .closed => (.headersSent, r)

def flushHead (r : Response) : Response :=
  match r.head with
  | .pending head => { r with head := .ready head }
  | .ready _ | .taken | .closed => r

/-- Adds a part to the body, and tells whether it was accepted; an empty one adds nothing. -/
def push (r : Response) (data : Bytes) : Bool × Response :=
  if !r.isOpen then (false, r)
  else if data.isEmpty then (true, r)
  else if !r.receiving then (false, r)
  else
    (true, { r with
      chunks := r.chunks ++ [data]
      buffered := r.buffered + data.length
      queued := r.queued + data.length })

def write (r : Response) (data : Bytes) : Bool × Response := r.flushHead.push data

def finish (r : Response) : Response := { r with isOpen := false }

def finishWith (r : Response) (data : Bytes) : Bool × Response :=
  let (accepted, r) := r.write data
  (accepted, r.finish)

def wantWritable (r : Response) : Bool × Response :=
  if 0 < r.buffered then (true, { r with writableWanted := true })
  else (false, { r with writableWanted := false })

def abortWith (r : Response) (status : StatusCode) : Response :=
  match r.head with
  | .pending _ => { r with head := .ready ⟨status, []⟩, isOpen := false }
  | .ready _ | .taken | .closed => { r with isOpen := false }

def discard (r : Response) : Response :=
  match r.head with
  | .pending _ => { r with head := .closed, isOpen := false }
  | .ready _ | .taken | .closed => { r with isOpen := false }

def pollHead (r : Response) : HeadPoll × Response :=
  match r.head with
  | .pending _ => (.pending, r)
  | .ready head => (.head head, { r with head := .taken })
  | .taken | .closed => (.closed, r)

/-- The connection asks for the next part of the body. The number of bytes accepted so far comes
    along if this drained a body that the host waits for. -/
def pollBody (r : Response) : BodyPoll × Option Nat × Response :=
  match r.chunks with
  | [] => (if r.isOpen then .pending else .done, none, r)
  | chunk :: rest =>
    let buffered := r.buffered - chunk.length
    if buffered = 0 ∧ r.writableWanted then
      (.data chunk, some r.queued,
        { r with chunks := rest, buffered, writableWanted := false })
    else (.data chunk, none, { r with chunks := rest, buffered })

def description (r : Response) : String :=
  "ResponseHandle \x7b head_sent: " ++ (if r.headSent then "true" else "false") ++ ", buffered: " ++
    Text.Decimal.text r.buffered ++ ", queued: " ++ Text.Decimal.text r.queued ++ " \x7d"

def hangUp (r : Response) : Response := { r with receiving := false, chunks := [] }

end Response

end Gateway
