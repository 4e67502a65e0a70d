import Gateway.Text.Blank
import Gateway.Text.Decimal

namespace Gateway.Http

structure StatusCode where
  code : Nat
  inRange : 100 ≤ code ∧ code ≤ 999
  deriving DecidableEq, Repr

namespace StatusCode

def ok : StatusCode := ⟨200, by decide⟩

def switchingProtocols : StatusCode := ⟨101, by decide⟩

def badRequest : StatusCode := ⟨400, by decide⟩

def notFound : StatusCode := ⟨404, by decide⟩

def internalServerError : StatusCode := ⟨500, by decide⟩

def serviceUnavailable : StatusCode := ⟨503, by decide⟩

def ofNat? (n : Nat) : Option StatusCode :=
  if h : 100 ≤ n ∧ n ≤ 999 then some ⟨n, h⟩ else none

/-- Reads the code that a status line begins with; the text after the first word does not matter. -/
def ofLine? (line : String) : Option StatusCode :=
  match Text.firstWord? line.toList with
  | some word =>
    match Text.Decimal.read? 65535 word with
    | some n => ofNat? n
    | none => none
  | none => none

end StatusCode

end Gateway.Http
