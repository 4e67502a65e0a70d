import Gateway.Id.Uuid

namespace Gateway

/-- A text that was offered as an identifier and is none. -/
structure InvalidId where
  text : String
  fault : Uuid.Fault
  deriving DecidableEq, Repr

def InvalidId.describe (text reason : String) : String :=
  "invalid identifier '" ++ text ++ "': " ++ reason

def InvalidId.message (e : InvalidId) : String := describe e.text e.fault.message

def Uuid.read (s : String) : Except InvalidId Uuid :=
  match Uuid.parse s with
  | .ok id => .ok id
  | .error fault => .error ⟨s, fault⟩

structure ConnectionId where
  uuid : Uuid
  deriving DecidableEq, Repr

namespace ConnectionId

def text (id : ConnectionId) : String := id.uuid.text

def read (s : String) : Except InvalidId ConnectionId :=
  match Uuid.read s with
  | .ok id => .ok ⟨id⟩
  | .error e => .error e

end ConnectionId

structure RequestId where
  uuid : Uuid
  deriving DecidableEq, Repr

namespace RequestId

def text (id : RequestId) : String := id.uuid.text

def read (s : String) : Except InvalidId RequestId :=
  match Uuid.read s with
  | .ok id => .ok ⟨id⟩
  | .error e => .error e

end RequestId

/-- The bits of a time-ordered identifier: a clock of 48 bits in milliseconds, the version 7,
    twelve bits of entropy, the variant, and 62 more bits of entropy. -/
def Uuid.stamp (milliseconds entropy : Nat) : Nat :=
  (milliseconds % 1 <<< 48) <<< 80 + 7 <<< 76 + (entropy >>> 62 % 1 <<< 12) <<< 64 + 2 <<< 62 +
    entropy % 1 <<< 62

def Uuid.bigEndian : Nat → Nat → Bytes
  | 0, _ => []
  | n + 1, x => Uuid.bigEndian n (x / 256) ++ [.ofNat (x % 256)]

@[simp] theorem Uuid.length_bigEndian (n x : Nat) : (Uuid.bigEndian n x).length = n := by
  induction n generalizing x with
  | zero => rfl
  | succ n ih => simp [Uuid.bigEndian, ih]

def Uuid.fresh (milliseconds entropy : Nat) : Uuid :=
  ⟨Uuid.bigEndian 16 (Uuid.stamp milliseconds entropy), Uuid.length_bigEndian 16 _⟩

def Uuid.version (id : Uuid) : Nat := (id.bytes.getD 6 0).toNat / 16

end Gateway
