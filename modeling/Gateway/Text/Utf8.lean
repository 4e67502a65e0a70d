namespace Gateway

abbrev Bytes := List UInt8

namespace Text.Utf8

def encodeChar (c : Char) : Bytes :=
  let n := c.toNat
  if n < 0x80 then [.ofNat n]
  else if n < 0x800 then [.ofNat (0xC0 + n / 0x40), .ofNat (0x80 + n % 0x40)]
  else if n < 0x10000 then
    [.ofNat (0xE0 + n / 0x1000), .ofNat (0x80 + n / 0x40 % 0x40), .ofNat (0x80 + n % 0x40)]
  else
    [.ofNat (0xF0 + n / 0x40000), .ofNat (0x80 + n / 0x1000 % 0x40),
      .ofNat (0x80 + n / 0x40 % 0x40), .ofNat (0x80 + n % 0x40)]

def encode (s : List Char) : Bytes := s.flatMap encodeChar

inductive Piece where
  | char (c : Char) (size : Nat)
  | malformed (size : Nat)
  /-- `size` bytes that begin a character, after which the input ends. -/
  | incomplete (size : Nat)
  deriving DecidableEq, Repr

def Piece.size : Piece → Nat
  | .char _ n | .malformed n | .incomplete n => n

/-- The length of the character that a first byte announces, with the least and the greatest
    second byte that may follow it. -/
def lead (b : Nat) : Option (Nat × Nat × Nat) :=
  if b < 0xC2 then none
  else if b < 0xE0 then some (2, 0x80, 0xBF)
  else if b = 0xE0 then some (3, 0xA0, 0xBF)
  else if b = 0xED then some (3, 0x80, 0x9F)
  else if b < 0xF0 then some (3, 0x80, 0xBF)
  else if b = 0xF0 then some (4, 0x90, 0xBF)
  else if b < 0xF4 then some (4, 0x80, 0xBF)
  else if b = 0xF4 then some (4, 0x80, 0x8F)
  else none

def continuation (bits size : Nat) : Nat → Bytes → Piece
  | 0, _ => .char (Char.ofNat bits) size
  | _ + 1, [] => .incomplete size
  | left + 1, b :: rest =>
    if 0x80 ≤ b.toNat ∧ b.toNat ≤ 0xBF then
      continuation (bits * 0x40 + b.toNat % 0x40) (size + 1) left rest
    else .malformed size

def front (b : UInt8) (rest : Bytes) : Piece :=
  if b.toNat < 0x80 then .char (Char.ofNat b.toNat) 1
  else
    match lead b.toNat with
    | none => .malformed 1
    | some (size, least, greatest) =>
      match rest with
      | [] => .incomplete 1
      | second :: rest =>
        if least ≤ second.toNat ∧ second.toNat ≤ greatest then
          let bits := b.toNat % (if size = 2 then 0x20 else if size = 3 then 0x10 else 0x08)
          continuation (bits * 0x40 + second.toNat % 0x40) 2 (size - 2) rest
        else .malformed 1

def piecesAfter : Nat → Bytes → List Piece
  | _, [] => []
  | skip + 1, _ :: rest => piecesAfter skip rest
  | 0, b :: rest =>
    let piece := front b rest
    piece :: piecesAfter (piece.size - 1) rest

def pieces (bytes : Bytes) : List Piece := piecesAfter 0 bytes

/-- The first place where bytes are no text: what comes before is, and `size` bytes are to blame,
    or none when the input ends inside a character. -/
structure Fault where
  validUpTo : Nat
  size : Option Nat
  deriving DecidableEq, Repr

def Fault.message : Fault → String
  | ⟨validUpTo, some size⟩ =>
    "invalid utf-8 sequence of " ++ toString size ++ " bytes from index " ++ toString validUpTo
  | ⟨validUpTo, none⟩ => "incomplete utf-8 byte sequence from index " ++ toString validUpTo

def spell (start : Nat) : List Piece → Except Fault (List Char)
  | [] => .ok []
  | .char c size :: rest =>
    match spell (start + size) rest with
    | .ok s => .ok (c :: s)
    | .error fault => .error fault
  | .malformed size :: _ => .error ⟨start, some size⟩
  | .incomplete _ :: _ => .error ⟨start, none⟩

def decode (bytes : Bytes) : Except Fault (List Char) := spell 0 (pieces bytes)

def lossy (bytes : Bytes) : List Char :=
  (pieces bytes).map fun
    | .char c _ => c
    | .malformed _ | .incomplete _ => Char.ofNat 0xFFFD

end Text.Utf8

def Text.bytes (s : String) : Bytes := Utf8.encode s.toList

def Text.ofBytes? (bytes : Bytes) : Option String :=
  match Utf8.decode bytes with
  | .ok s => some (String.ofList s)
  | .error _ => none

end Gateway
