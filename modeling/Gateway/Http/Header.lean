import Gateway.Http.Method
import Gateway.Text.Ascii

namespace Gateway.Http

/-- Whether a byte may stand in the value of a field: a tab, or any other byte that is no control. -/
def isValueByte (b : UInt8) : Bool := b == 9 || (32 ≤ b && b != 127)

def isPlainByte (b : UInt8) : Bool := b == 9 || (32 ≤ b && b < 127)

def maxFieldName : Nat := 65535

def fieldName? (s : String) : Option String :=
  if isToken s ∧ s.length ≤ maxFieldName then some (Text.Ascii.lower s) else none

def fieldValue? (bytes : Bytes) : Option Bytes :=
  if bytes.all isValueByte then some bytes else none

structure Field where
  name : String
  value : Bytes
  deriving DecidableEq, Repr

abbrev Headers := List Field

namespace Headers

def contains (headers : Headers) (name : String) : Bool := headers.any (·.name == name)

def append : Headers → Field → Headers
  | [], field => [field]
  | first :: rest, field =>
    if first.name = field.name ∧ ¬ contains rest field.name then first :: field :: rest
    else first :: append rest field

def get? (headers : Headers) (name : String) : Option Bytes :=
  (headers.find? (·.name == name)).map (·.value)

def text? (headers : Headers) (name : String) : Option String :=
  match get? headers name with
  | some value => if value.all isPlainByte then Text.ofBytes? value else none
  | none => none

def ofRaw? (raw : List (String × Bytes)) : Option Headers :=
  raw.foldl (fun headers? (name, value) =>
    match headers?, fieldName? name, fieldValue? value with
    | some headers, some name, some value => some (append headers ⟨name, value⟩)
    | _, _, _ => none) (some [])

end Headers

end Gateway.Http
