import Gateway.Http.Header
import Gateway.Http.Uri

namespace Gateway.Http

structure RequestHead where
  method : Method
  uri : Uri
  headers : Headers

def RequestHead.read? (method uri : String) (headers : List (String × Bytes)) : Option RequestHead := do
  return ⟨← Method.read? method, ← Uri.read? uri, ← Headers.ofRaw? headers⟩

end Gateway.Http
