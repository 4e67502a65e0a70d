import Gateway.Id
import Gateway.Json.Shape

namespace Gateway

namespace ConnectionId

def json (id : ConnectionId) : Json.Value := .string id.text

def ofJson? (value : Json.Value) : Option ConnectionId := do
  (read (← Json.text? value)).toOption

end ConnectionId

namespace RequestId

def json (id : RequestId) : Json.Value := .string id.text

def ofJson? (value : Json.Value) : Option RequestId := do
  (read (← Json.text? value)).toOption

end RequestId

end Gateway
