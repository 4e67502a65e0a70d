namespace Gateway.Text.Ascii

def lowerChar (c : Char) : Char :=
  if 'A' ≤ c ∧ c ≤ 'Z' then Char.ofNat (c.toNat + 32) else c

def lower (s : String) : String := String.ofList (s.toList.map lowerChar)

def sameText (s t : String) : Bool := s.toList.map lowerChar == t.toList.map lowerChar

end Gateway.Text.Ascii
