import Gateway.Text.Utf8

namespace Gateway.Buffer

/-- What a copy did: the buffer after it, the number of bytes of the value in it, and whether the
    value lost its end. -/
structure Copy where
  buffer : Bytes
  copied : Nat
  truncated : Bool
  deriving DecidableEq, Repr

def Copy.isComplete (copy : Copy) : Bool := !copy.truncated

def copy (value buffer : Bytes) : Copy :=
  let part := value.take buffer.length
  ⟨part ++ buffer.drop part.length, part.length, part.length < value.length⟩

/-- Copies as much of a value as leaves room for a zero byte, and ends it with one. A buffer
    without any room stays as it is. -/
def copyTerminated (value buffer : Bytes) : Copy :=
  if buffer.length = 0 then ⟨buffer, 0, 0 < value.length⟩
  else
    let part := value.take (buffer.length - 1)
    ⟨part ++ 0 :: buffer.drop (part.length + 1), part.length, part.length < value.length⟩

end Gateway.Buffer
