import Gateway.Buffer
import Gateway.Request.Record
import Gateway.Request.Response

namespace Gateway

open Http (StatusCode)

/-- The requests that are being answered, in the order of their arrival, and all responses that were
    begun. -/
structure RequestRegistry where
  maxBackpressure : Nat
  records : List RequestRecord
  responses : List Response
  deriving DecidableEq, Repr

namespace RequestRegistry

def empty (maxBackpressure : Nat) : RequestRegistry := ⟨maxBackpressure, [], []⟩

def openResponse (r : RequestRegistry) : Nat × RequestRegistry :=
  (r.responses.length, { r with responses := r.responses ++ [.start] })

def response? (r : RequestRegistry) (n : Nat) : Option Response := r.responses[n]?

def modifyResponse (r : RequestRegistry) (n : Nat) (f : Response → Response) : RequestRegistry :=
  { r with responses := r.responses.modify n f }

def find? (r : RequestRegistry) (id : RequestId) : Option RequestRecord :=
  r.records.find? (·.id == id)

def has (r : RequestRegistry) (id : RequestId) : Bool := (r.find? id).isSome

def length (r : RequestRegistry) : Nat := r.records.length

def isEmpty (r : RequestRegistry) : Bool := r.records.isEmpty

def begin (r : RequestRegistry) (record : RequestRecord) : Bool × RequestRegistry :=
  if r.has record.id then (false, r) else (true, { r with records := r.records ++ [record] })

def remove (r : RequestRegistry) (id : RequestId) : RequestRegistry :=
  { r with records := r.records.filter (·.id != id) }

def responseOf? (r : RequestRegistry) (id : RequestId) : Option (Nat × Response) :=
  match r.find? id with
  | some record => (r.response? record.response).map fun response => (record.response, response)
  | none => none

def copyField (r : RequestRegistry) (id : RequestId) (field : RequestField) (buffer : Bytes) :
    Option Buffer.Copy :=
  match r.find? id with
  | some record => (record.field? field).map fun value => Buffer.copyTerminated value buffer
  | none => none

def withResponse {α : Type} (r : RequestRegistry) (id : RequestId) (unknown : α)
    (f : Response → α × Response) : α × RequestRegistry :=
  match r.responseOf? id with
  | none => (unknown, r)
  | some (n, response) =>
    let (answer, response) := f response
    (answer, r.modifyResponse n fun _ => response)

def write (r : RequestRegistry) (id : RequestId) (data : Bytes) : ResponseStatus × RequestRegistry :=
  r.withResponse id .noSuchRequest fun response =>
    let (accepted, response) := response.write data
    (if accepted then .sentNotEnded else .noSuchRequest, response)

def finish (r : RequestRegistry) (id : RequestId) (data : Bytes) : ResponseStatus × RequestRegistry :=
  match r.responseOf? id with
  | none => (.noSuchRequest, r)
  | some (n, response) =>
    (.sentAndEnded, (r.remove id).modifyResponse n fun _ => (response.finishWith data).2)

/-- Writes a part of a body of known size, unless too much waits already. The part that completes
    the body ends the response. -/
def tryEnd (r : RequestRegistry) (id : RequestId) (data : Bytes) (totalSize : Nat) :
    ResponseStatus × RequestRegistry :=
  match r.responseOf? id with
  | none => (.noSuchRequest, r)
  | some (n, response) =>
    if 0 < response.buffered ∧ r.maxBackpressure < response.buffered + data.length then
      (.notSent, r.modifyResponse n fun response => response.wantWritable.2)
    else if totalSize ≤ response.queued + data.length then r.finish id data
    else r.write id data

def setStatus (r : RequestRegistry) (id : RequestId) (line : String) :
    RequestStatus × RequestRegistry :=
  r.withResponse id .noSuchRequest (·.setStatus line)

def setHeader (r : RequestRegistry) (id : RequestId) (name value : String) :
    RequestStatus × RequestRegistry :=
  r.withResponse id .noSuchRequest (·.setHeader name value)

def abort (r : RequestRegistry) (id : RequestId) : Bool × RequestRegistry :=
  match r.find? id with
  | none => (false, r)
  | some record => (true, (r.remove id).modifyResponse record.response Response.discard)

/-- Answers every request in flight with a bare status, or closes its body if its head is out, and
    tells how many there were. -/
def abortAll (r : RequestRegistry) (status : StatusCode) : Nat × RequestRegistry :=
  (r.records.length,
    r.records.foldl (fun r record => r.modifyResponse record.response (·.abortWith status))
      { r with records := [] })

def pollHead (r : RequestRegistry) (n : Nat) : HeadPoll × RequestRegistry :=
  match r.response? n with
  | some response =>
    let (poll, response) := response.pollHead
    (poll, r.modifyResponse n fun _ => response)
  | none => (.closed, r)

def pollBody (r : RequestRegistry) (n : Nat) : BodyPoll × Option Nat × RequestRegistry :=
  match r.response? n with
  | some response =>
    let (poll, drained, response) := response.pollBody
    (poll, drained, r.modifyResponse n fun _ => response)
  | none => (.done, none, r)

end RequestRegistry

end Gateway
