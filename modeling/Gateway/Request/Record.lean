import Gateway.Http.Header
import Gateway.Http.Uri
import Gateway.Id
import Gateway.Json.Printer

namespace Gateway

open Http (Field Headers Method Uri)

/-- A request in flight. Of the header fields it keeps one value for each name, the last. -/
structure RequestRecord where
  id : RequestId
  method : String
  path : String
  query : String
  route : String
  headers : List Field
  response : Nat
  deriving DecidableEq, Repr

/-- The part of a request that the host asks for. -/
inductive RequestField where
  | method
  | url
  | query
  | endpoint
  | header (name : String)
  | allHeaders
  deriving DecidableEq, Repr

def RequestField.ofName (name header : String) : RequestField :=
  if name = "method" then .method
  else if name = "url" then .url
  else if name = "query" then .query
  else if name = "endpoint" then .endpoint
  else if name = "headers" then .allHeaders
  else .header header

def RequestField.isHeader : RequestField → Bool
  | header _ => true
  | _ => false

namespace RequestRecord

/-- Puts a field into a list with one value for each name: in place of the one with its name, or at
    the end. -/
def insertField : List Field → Field → List Field
  | [], field => [field]
  | first :: rest, field =>
    if first.name = field.name then field :: rest else first :: insertField rest field

def ofHead (id : RequestId) (method : Method) (uri : Uri) (headers : Headers) (route : String)
    (response : Nat) : RequestRecord where
  id := id
  method := method.name
  path := uri.path
  query := uri.query.getD ""
  route := route
  headers := headers.foldl insertField []
  response := response

def header? (record : RequestRecord) (name : String) : Option Bytes :=
  (record.headers.find? (·.name == Text.Ascii.lower name)).map (·.value)

def headersJson (record : RequestRecord) : String :=
  Json.Value.text (.object (record.headers.map fun field =>
    (field.name, .string (String.ofList (Text.Utf8.lossy field.value)))))

def field? (record : RequestRecord) : RequestField → Option Bytes
  | .method => some (Text.bytes record.method)
  | .url => some (Text.bytes record.path)
  | .query => some (Text.bytes record.query)
  | .endpoint => some (Text.bytes record.route)
  | .header name => record.header? name
  | .allHeaders => some (Text.bytes record.headersJson)

def fieldText? (record : RequestRecord) : RequestField → Option String
  | .method => some record.method
  | .url => some record.path
  | .query => some record.query
  | .endpoint => some record.route
  | .header name => (record.header? name).map fun value => String.ofList (Text.Utf8.lossy value)
  | .allHeaders => some record.headersJson

end RequestRecord

end Gateway
