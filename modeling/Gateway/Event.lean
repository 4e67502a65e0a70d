import Gateway.Named
import Gateway.Text.Utf8

namespace Gateway

inductive EventKind where
  | opened | message | closed
  | listening | shutDown
  | requestStart | requestData | requestEnd | requestAbort | writable
  | error
  deriving DecidableEq, Repr

namespace EventKind

def all : List EventKind :=
  [opened, message, closed, listening, shutDown, requestStart, requestData, requestEnd,
    requestAbort, writable, error]

def name : EventKind → String
  | opened => "OPEN"
  | message => "MESSAGE"
  | closed => "CLOSE"
  | listening => "LISTEN"
  | shutDown => "SHUTDOWN"
  | requestStart => "HTTP_START"
  | requestData => "HTTP_DATA"
  | requestEnd => "HTTP_END"
  | requestAbort => "HTTP_ABORT"
  | writable => "HTTP_WRITABLE"
  | error => "ERROR"

def code : EventKind → Nat
  | opened => 0
  | message => 1
  | closed => 2
  | listening => 3
  | shutDown => 4
  | requestStart => 5
  | requestData => 6
  | requestEnd => 7
  | requestAbort => 8
  | writable => 9
  | error => 10

def ofCode? (code : Int) : Option EventKind := all.find? fun kind => kind.code = code

def unknownMessage (code : Int) : String := "unknown event kind discriminant: " ++ toString code

theorem ofCode?_code (kind : EventKind) : ofCode? kind.code = some kind := by
  cases kind <;> rfl

end EventKind

instance : Named EventKind where
  all := EventKind.all
  name := EventKind.name
  mem_all := by intro a; cases a <;> decide
  name_injective := by intro a b; cases a <;> cases b <;> decide

/-- The identifier of events that belong to the server and not to a connection or request. -/
def serverId : String := "server"

structure Envelope where
  kind : EventKind
  id : String
  payload : Bytes
  /-- Whether the payload lost its end to a size limit. -/
  truncated : Bool
  deriving DecidableEq, Repr

namespace Envelope

def whole (kind : EventKind) (id : String) (payload : Bytes) : Envelope :=
  ⟨kind, id, payload, false⟩

def capped (kind : EventKind) (id : String) (payload : Bytes) (limit : Nat) : Envelope :=
  ⟨kind, id, payload.take limit, limit < payload.length⟩

def ofServer (kind : EventKind) (payload : Bytes) : Envelope := whole kind serverId payload

def nothing : Envelope := ofServer .error []

def isNothing (e : Envelope) : Bool := e.kind == .error && e.payload.isEmpty && e.id == serverId

@[simp] theorem isNothing_nothing : nothing.isNothing = true := by decide

end Envelope

end Gateway
