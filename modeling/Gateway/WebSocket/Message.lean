import Gateway.Text.Utf8

namespace Gateway.WebSocket

/-- The codes with which this server closes a connection or reports one closed. -/
inductive CloseCode where
  | normal | goingAway | protocol | noStatus | abnormal | policyViolation | messageTooBig
  | internalError
  deriving DecidableEq, Repr

namespace CloseCode

def all : List CloseCode :=
  [normal, goingAway, protocol, noStatus, abnormal, policyViolation, messageTooBig, internalError]

def code : CloseCode → UInt16
  | normal => 1000
  | goingAway => 1001
  | protocol => 1002
  | noStatus => 1005
  | abnormal => 1006
  | policyViolation => 1008
  | messageTooBig => 1009
  | internalError => 1011

def name : CloseCode → String
  | normal => "Normal"
  | goingAway => "GoingAway"
  | protocol => "Protocol"
  | noStatus => "NoStatus"
  | abnormal => "Abnormal"
  | policyViolation => "PolicyViolation"
  | messageTooBig => "MessageTooBig"
  | internalError => "InternalError"

def ofCode? (code : UInt16) : Option CloseCode := all.find? (·.code = code)

def text (c : CloseCode) : String := c.name ++ " (" ++ toString c.code.toNat ++ ")"

end CloseCode

/-- Why a connection ends: a code and a text. -/
structure Closure where
  code : UInt16
  reason : String
  deriving DecidableEq, Repr

namespace Closure

def codeBytes (code : UInt16) : Bytes := [(code >>> 8).toUInt8, code.toUInt8]

def payload (c : Closure) : Bytes := codeBytes c.code ++ Text.bytes c.reason

def of (code : CloseCode) (reason : String) : Closure := ⟨code.code, reason⟩

end Closure

/-- The payload of the event that reports a connection closed: empty for a close without a code. -/
def closePayload (closure? : Option Closure) : Bytes :=
  match closure? with
  | some closure => closure.payload
  | none => []

inductive Message where
  | text (s : String)
  | binary (data : Bytes)
  | ping (data : Bytes)
  | pong (data : Bytes)
  | close (closure? : Option Closure)
  deriving DecidableEq, Repr

namespace Message

def payload : Message → Bytes
  | text s => Text.bytes s
  | binary data | ping data | pong data => data
  | close closure? => closePayload closure?

def isControl : Message → Bool
  | text _ | binary _ => false
  | ping _ | pong _ | close _ => true

def frameSize (m : Message) (isMasked : Bool) : Nat :=
  let size := m.payload.length
  let head := if size < 126 then 2 else if size < 0x10000 then 4 else 10
  head + (if isMasked then 4 else 0) + size

end Message

inductive Outbound where
  | text (s : String)
  | binary (data : Bytes)
  | close (closure : Closure)
  deriving DecidableEq, Repr

namespace Outbound

def ofBytes (data : Bytes) : Except Text.Utf8.Fault Outbound :=
  match Text.Utf8.decode data with
  | .ok s => .ok (.text (String.ofList s))
  | .error fault => .error fault

def size : Outbound → Nat
  | text s => (Text.bytes s).length
  | binary data => data.length
  | close closure => closure.payload.length

def isClose : Outbound → Bool
  | close _ => true
  | text _ | binary _ => false

def message : Outbound → Message
  | text s => .text s
  | binary data => .binary data
  | close closure => .close (some closure)

end Outbound

end Gateway.WebSocket
