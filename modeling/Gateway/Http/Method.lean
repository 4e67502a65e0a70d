import Gateway.Text.Utf8

namespace Gateway.Http

def isTokenChar (c : Char) : Bool :=
  ('0' ≤ c && c ≤ '9') || ('a' ≤ c && c ≤ 'z') || ('A' ≤ c && c ≤ 'Z') ||
    "!#$%&'*+-.^_`|~".toList.contains c

def isToken (s : String) : Bool := !s.toList.isEmpty && s.toList.all isTokenChar

/-- The method of a request, case kept. -/
structure Method where
  name : String
  isToken_name : isToken name = true
  deriving DecidableEq, Repr

def Method.read? (s : String) : Option Method :=
  if h : isToken s = true then some ⟨s, h⟩ else none

end Gateway.Http
