import Gateway.Pattern.Node
import Gateway.Text.Blank
import Gateway.Text.Hex

namespace Gateway.Pattern

def skipFrom (inComment : Bool) : List Char → List Char
  | [] => []
  | c :: rest =>
    if inComment then skipFrom (c ≠ '\n') rest
    else if Text.isBlank c then skipFrom false rest
    else if c = '#' then skipFrom true rest
    else c :: rest

def skipSpace (isSpaced : Bool) (s : List Char) : List Char := if isSpaced then skipFrom false s else s

def hexDigits? (isSpaced : Bool) : (left : Nat) → (value : Nat) → List Char →
    Option (Char × List Char)
  | 0, value, s =>
    if value < 0xD800 ∨ (0xDFFF < value ∧ value < 0x110000) then some (Char.ofNat value, s) else none
  | left + 1, value, s =>
    match skipSpace isSpaced s with
    | [] => none
    | c :: rest =>
      match Text.Hex.value? c with
      | some digit => hexDigits? isSpaced left (16 * value + digit) rest
      | none => none

def hexLiteral? (isSpaced : Bool) (digits : Nat) (s : List Char) : Option (Node × List Char) :=
  (hexDigits? isSpaced digits 0 s).map fun (c, rest) =>
    (.literal ⟨c, digits = 2⟩, skipSpace isSpaced rest)

def controls : List (Char × Nat) :=
  [('a', 0x07), ('f', 0x0C), ('t', 0x09), ('n', 0x0A), ('r', 0x0D), ('v', 0x0B)]

def isEscapable (c : Char) : Bool := c.toNat < 0x80 && !c.isAlphanum && c != '<' && c != '>'

/-- What a backslash begins. Classes with names are not known, and neither are those of all but the
    digits, the blanks or the letters of words. -/
def escape? (isSpaced : Bool) : List Char → Option (Node × List Char)
  | [] => none
  | c :: rest =>
    if c = 'x' then hexLiteral? isSpaced 2 rest
    else if c = 'u' then hexLiteral? isSpaced 4 rest
    else if c = 'U' then hexLiteral? isSpaced 8 rest
    else if c = 'd' ∨ c = 's' ∨ c = 'w' then some (.shorthand, rest)
    else if c = 'A' ∨ c = 'z' then some (.anchor, rest)
    else if c = 'b' ∨ c = 'B' ∨ c = '<' ∨ c = '>' then some (.wordEdge, rest)
    else if isEscapable c then some (.literal ⟨c, false⟩, rest)
    else (controls.lookup c).map fun n => (.literal ⟨Char.ofNat n, false⟩, rest)

end Gateway.Pattern
