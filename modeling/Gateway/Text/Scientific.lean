import Gateway.Text.Decimal

namespace Gateway.Text

structure Scientific where
  digits : Nat
  exponent : Int

namespace Scientific

def overflow : Nat := 1 <<< 1024 - 1 <<< 970

/-- Whether the number, rounded to 53 binary digits, is finite. The number of its decimal digits
    before the point decides, except for the 309 that `overflow` has. -/
def isFinite (x : Scientific) : Bool :=
  let places := (Decimal.digits x.digits).length + x.exponent
  if x.digits = 0 || places < 309 then true
  else if 309 < places then false
  else x.digits * Nat.pow 10 x.exponent.toNat < overflow * Nat.pow 10 (-x.exponent).toNat

end Scientific

end Gateway.Text
