import Gateway.Text.Utf8

namespace Gateway

structure SizeHint where
  lower : Nat
  upper : Option Nat
  deriving DecidableEq, Repr

namespace SizeHint

def exactly (n : Nat) : SizeHint := ⟨n, some n⟩

def unknown : SizeHint := ⟨0, none⟩

end SizeHint

inductive PlainBody where
  | empty
  | full (data : Option Bytes)
  deriving DecidableEq, Repr

namespace PlainBody

def isEnd : PlainBody → Bool
  | empty => true
  | full data => data.isNone

def sizeHint : PlainBody → SizeHint
  | empty | full none => .exactly 0
  | full (some data) => .exactly data.length

def poll : PlainBody → Option Bytes × PlainBody
  | empty => (none, empty)
  | full data => (data, full none)

end PlainBody

end Gateway
