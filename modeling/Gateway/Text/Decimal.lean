namespace Gateway.Text.Decimal

def maxWord : Nat := 1 <<< 64 - 1

def isDigit (c : Char) : Bool := '0' ≤ c && c ≤ '9'

def digitValue (c : Char) : Nat := c.toNat - 48

def value (digits : List Char) : Nat :=
  digits.foldl (fun n c => 10 * n + digitValue c) 0

def ofDigits? (bound : Nat) (digits : List Char) : Option Nat :=
  if digits ≠ [] ∧ digits.all isDigit ∧ value digits ≤ bound then some (value digits) else none

def digitsWithin : Nat → Nat → List Char
  | 0, _ => []
  | steps + 1, n =>
    if n < 10 then [Char.ofNat (48 + n)]
    else digitsWithin steps (n / 10) ++ [Char.ofNat (48 + n % 10)]

def digits (n : Nat) : List Char := digitsWithin (n + 1) n

def text (n : Nat) : String := String.ofList (digits n)

/-- Reads a number of at most `bound`: digits, with leading zeros allowed, after an optional `+`. -/
def read? (bound : Nat) : List Char → Option Nat
  | '+' :: digits => ofDigits? bound digits
  | digits => ofDigits? bound digits

end Gateway.Text.Decimal
