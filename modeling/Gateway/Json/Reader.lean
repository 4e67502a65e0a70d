import Gateway.Json.Value
import Gateway.Text.Decimal
import Gateway.Text.Hex

namespace Gateway.Json

def isBlank (c : Char) : Bool := c == ' ' || c == '\n' || c == '\t' || c == '\r'

def skipBlanks (s : List Char) : List Char := s.dropWhile isBlank

def hexQuad? : List Char → Option (Nat × List Char)
  | a :: b :: c :: d :: rest => (Text.Hex.number? [a, b, c, d]).map fun n => (n, rest)
  | _ => none

def joinSurrogates (high low : Nat) : Char :=
  Char.ofNat (0x10000 + (high - 0xD800) * 0x400 + (low - 0xDC00))

def simpleEscape? (c : Char) : Option Char :=
  if c = '\x22' ∨ c = '\\' ∨ c = '/' then some c
  else if c = 'b' then some (Char.ofNat 8)
  else if c = 'f' then some (Char.ofNat 12)
  else if c = 'n' then some '\n'
  else if c = 'r' then some '\r'
  else if c = 't' then some '\t'
  else none

/-- One unit of a string: a character, or half of a surrogate pair without the other half. -/
inductive StringUnit where
  | char (c : Char)
  | half

def escape? : List Char → Option (StringUnit × List Char)
  | [] => none
  | c :: rest =>
    if c = 'u' then
      match hexQuad? rest with
      | none => none
      | some (n, rest) =>
        if n < 0xD800 ∨ 0xDFFF < n then some (.char (Char.ofNat n), rest)
        else
          match rest with
          | '\\' :: 'u' :: more =>
            match hexQuad? more with
            | some (low, more) =>
              if n < 0xDC00 ∧ 0xDC00 ≤ low ∧ low ≤ 0xDFFF then
                some (.char (joinSurrogates n low), more)
              else some (.half, rest)
            | none => some (.half, rest)
          | _ => some (.half, rest)
    else (simpleEscape? c).map fun c => (.char c, rest)

def stringUnits : Nat → List Char → Option (List StringUnit × List Char)
  | 0, _ => none
  | _ + 1, [] => none
  | fuel + 1, c :: rest =>
    if c = '\x22' then some ([], rest)
    else if c.toNat < 32 then none
    else
      match if c = '\\' then escape? rest else some (.char c, rest) with
      | none => none
      | some (unit, rest) =>
        match stringUnits fuel rest with
        | some (units, rest) => some (unit :: units, rest)
        | none => none

def unitsText? : List StringUnit → Option (List Char)
  | [] => some []
  | .char c :: rest => (unitsText? rest).map (c :: ·)
  | .half :: _ => none

def string? (s : List Char) : Option (Option String × List Char) :=
  match stringUnits (s.length + 1) s with
  | some (units, rest) => some ((unitsText? units).map String.ofList, rest)
  | none => none

def fraction? : List Char → Option (Bool × List Char)
  | '.' :: rest =>
    match rest.takeWhile Text.Decimal.isDigit with
    | [] => none
    | _ => some (true, rest.dropWhile Text.Decimal.isDigit)
  | s => some (false, s)

def exponent? : List Char → Option (Bool × List Char)
  | c :: rest =>
    if c = 'e' ∨ c = 'E' then
      let digits := match rest with
        | '+' :: more | '-' :: more => more
        | more => more
      match digits.takeWhile Text.Decimal.isDigit with
      | [] => none
      | _ => some (true, digits.dropWhile Text.Decimal.isDigit)
    else some (false, c :: rest)
  | [] => some (false, [])

def number? (s : List Char) : Option (Value × List Char) :=
  let (negative, s) := match s with
    | '-' :: rest => (true, rest)
    | s => (false, s)
  let digits := s.takeWhile Text.Decimal.isDigit
  if digits.isEmpty ∨ (digits.head? = some '0' ∧ 1 < digits.length) then none
  else
    match fraction? (s.dropWhile Text.Decimal.isDigit) with
    | none => none
    | some (hasFraction, s) =>
      match exponent? s with
      | none => none
      | some (hasExponent, s) =>
        if negative ∨ hasFraction ∨ hasExponent then some (.other, s)
        else some (.natural (Text.Decimal.value digits), s)

def objectOf (members : List (Option String × Value)) : Value :=
  match members.mapM fun (name, value) => name.map fun name => (name, value) with
  | some members => .object members
  | none => .unpaired

def afterWord? (word : String) (s : List Char) : Option (List Char) :=
  if word.toList.isPrefixOf s then some (s.drop word.length) else none

mutual

def value? : Nat → List Char → Option (Value × List Char)
  | 0, _ => none
  | fuel + 1, s =>
    match skipBlanks s with
    | [] => none
    | '\x22' :: rest =>
      match string? rest with
      | some (some s, rest) => some (.string s, rest)
      | some (none, rest) => some (.unpaired, rest)
      | none => none
    | '[' :: rest =>
      match skipBlanks rest with
      | ']' :: rest => some (.array [], rest)
      | _ => (items? fuel rest).map fun (items, rest) => (.array items, rest)
    | '\x7b' :: rest =>
      match skipBlanks rest with
      | '\x7d' :: rest => some (.object [], rest)
      | _ => (members? fuel rest).map fun (members, rest) => (objectOf members, rest)
    | 'n' :: rest => (afterWord? "ull" rest).map fun rest => (.null, rest)
    | 't' :: rest => (afterWord? "rue" rest).map fun rest => (.bool true, rest)
    | 'f' :: rest => (afterWord? "alse" rest).map fun rest => (.bool false, rest)
    | s => number? s

def items? : Nat → List Char → Option (List Value × List Char)
  | 0, _ => none
  | fuel + 1, s =>
    match value? fuel s with
    | none => none
    | some (item, rest) =>
      match skipBlanks rest with
      | ']' :: rest => some ([item], rest)
      | ',' :: rest => (items? fuel rest).map fun (items, rest) => (item :: items, rest)
      | _ => none

def members? : Nat → List Char → Option (List (Option String × Value) × List Char)
  | 0, _ => none
  | fuel + 1, s =>
    match skipBlanks s with
    | '\x22' :: rest =>
      match string? rest with
      | some (name, rest) =>
        match skipBlanks rest with
        | ':' :: rest =>
          match value? fuel rest with
          | none => none
          | some (value, rest) =>
            match skipBlanks rest with
            | '\x7d' :: rest => some ([(name, value)], rest)
            | ',' :: rest =>
              (members? fuel rest).map fun (members, rest) => ((name, value) :: members, rest)
            | _ => none
        | _ => none
      | none => none
    | _ => none

end

def read? (text : String) : Option Value :=
  let s := text.toList
  match value? (2 * s.length + 2) s with
  | some (value, rest) => if (skipBlanks rest).isEmpty then some value else none
  | none => none

end Gateway.Json
