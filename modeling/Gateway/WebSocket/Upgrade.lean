import Gateway.Http.Header
import Gateway.Http.Status
import Gateway.WebSocket.Base64
import Gateway.WebSocket.Sha1

namespace Gateway.WebSocket

inductive Error where
  | notWebSocketRequest (reason : String)
  | invalidUtf8 (fault : Text.Utf8.Fault)
  | badHeaderValue
  deriving DecidableEq, Repr

def Error.message : Error → String
  | notWebSocketRequest reason => "not a WebSocket upgrade request: " ++ reason
  | invalidUtf8 fault => "text message is not valid UTF-8: " ++ fault.message
  | badHeaderValue => "failed to build upgrade response: failed to parse header value"

namespace Upgrade

def guid : String := "258EAFA5-E914-47DA-95CA-C5AB0DC85B11"

def acceptKey (key : String) : String :=
  String.ofList (Base64.encode (Sha1.digest (Text.bytes key ++ Text.bytes guid)))

def occursIn (word : List Char) : List Char → Bool
  | [] => word.isEmpty
  | c :: rest => word.isPrefixOf (c :: rest) || occursIn word rest

/-- Checks that the head of a request asks for a connection, and gives the answer to its key. -/
def check (headers : Http.Headers) : Except Error String :=
  let asks := match headers.text? "connection" with
    | some value => occursIn "upgrade".toList (Text.Ascii.lower value).toList
    | none => false
  let toWebSocket := match headers.text? "upgrade" with
    | some value => Text.Ascii.sameText value "websocket"
    | none => false
  if !asks then .error (.notWebSocketRequest "missing Connection: Upgrade header")
  else if !toWebSocket then .error (.notWebSocketRequest "missing Upgrade: websocket header")
  else
    match headers.text? "sec-websocket-key" with
    | none | some "" => .error (.notWebSocketRequest "missing Sec-WebSocket-Key header")
    | some key =>
      if headers.text? "sec-websocket-version" = some "13" then .ok (acceptKey key)
      else .error (.notWebSocketRequest
        "missing or invalid Sec-WebSocket-Version header (must be 13)")

def isRequested (headers : Http.Headers) : Bool :=
  match check headers with
  | .ok _ => true
  | .error _ => false

def response (acceptKey : String) : Except Error (Http.StatusCode × Http.Headers) :=
  match Http.fieldValue? (Text.bytes acceptKey) with
  | some value => .ok (.switchingProtocols,
      [⟨"connection", Text.bytes "Upgrade"⟩, ⟨"upgrade", Text.bytes "websocket"⟩,
        ⟨"sec-websocket-accept", value⟩])
  | none => .error .badHeaderValue

end Upgrade

end Gateway.WebSocket
