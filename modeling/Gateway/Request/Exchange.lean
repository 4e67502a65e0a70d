import Gateway.Engine
import Gateway.Request.Body

namespace Gateway

inductive BodyHold where
  | waiting
  /-- The body is being sent; the request is given up when that ends early. -/
  | streaming
  | released
  deriving DecidableEq, Repr

structure Exchange where
  id : RequestId
  response : Nat
  holdsHead : Bool
  body : BodyHold
  deriving DecidableEq, Repr

namespace Exchange

def begin (e : Engine) (id : RequestId) (method : Http.Method) (uri : Http.Uri)
    (headers : Http.Headers) (route : String) : Option Exchange × Engine :=
  let (accepted, n, e) := e.beginRequest id method uri headers route
  if accepted then (some ⟨id, n, true, .waiting⟩, e) else (none, e.dropBody n)

def pollHead (x : Exchange) (e : Engine) : Option HeadPoll × Engine :=
  if x.holdsHead then
    let (poll, e) := e.pollHead x.response
    (some poll, e)
  else (none, e)

def openBody (x : Exchange) : Bool × Exchange :=
  match x.body with
  | .waiting => (true, { x with body := .streaming })
  | .streaming | .released => (false, x)

def pollBody (x : Exchange) (e : Engine) : Option BodyPoll × Engine :=
  match x.body with
  | .streaming =>
    let (poll, e) := e.pollBody x.id x.response
    (some poll, e)
  | .waiting | .released => (none, e)

def sizeHint? (x : Exchange) : Option SizeHint :=
  match x.body with
  | .streaming => some .unknown
  | .waiting | .released => none

def dropHead (x : Exchange) : Bool × Exchange := (x.holdsHead, { x with holdsHead := false })

def dropBody (x : Exchange) (e : Engine) : Bool × Exchange × Engine :=
  match x.body with
  | .waiting => (true, { x with body := .released }, e.dropBody x.response)
  | .streaming =>
    (true, { x with body := .released }, (e.dropBody x.response).abandonRequest x.id)
  | .released => (false, x, e)

end Exchange

end Gateway
