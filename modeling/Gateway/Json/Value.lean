namespace Gateway.Json

/-- A value. Numbers other than plain non-negative integers are told apart from these and are not
    kept, since nothing here takes them. -/
inductive Value where
  | null
  | bool (b : Bool)
  | natural (n : Nat)
  /-- A number with a sign, a fraction or an exponent, or a date. -/
  | other
  | string (s : String)
  /-- A string that stands for no text, as it names half of a surrogate pair, or an object with such
      a name. -/
  | unpaired
  | array (items : List Value)
  | object (members : List (String × Value))
  deriving Repr

end Gateway.Json
