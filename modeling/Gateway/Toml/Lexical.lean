import Gateway.Json.Value
import Gateway.Text.Decimal
import Gateway.Text.Hex
import Gateway.Text.Scientific

namespace Gateway.Toml

open Json (Value)

def isBlank (c : Char) : Bool := c == ' ' || c == '\t'

def skipBlanks (s : List Char) : List Char := s.dropWhile isBlank

def isPrintable (c : Char) : Bool := c == '\t' || (0x20 ≤ c.toNat && c.toNat != 0x7F)

def newline? : List Char → Option (List Char)
  | '\n' :: rest => some rest
  | '\r' :: '\n' :: rest => some rest
  | _ => none

def skipComment : List Char → List Char
  | '#' :: rest => rest.dropWhile isPrintable
  | s => s

def endOfLine? (s : List Char) : Option (List Char) :=
  match skipComment (skipBlanks s) with
  | [] => some []
  | s => newline? s

def skipSpace : Nat → List Char → List Char
  | 0, s => s
  | fuel + 1, s =>
    let s := skipComment (skipBlanks s)
    match newline? s with
    | some rest => skipSpace fuel rest
    | none => s

def isBareKeyChar (c : Char) : Bool :=
  ('0' ≤ c && c ≤ '9') || ('a' ≤ c && c ≤ 'z') || ('A' ≤ c && c ≤ 'Z') || c == '_' || c == '-'

def codePoint? (n : Nat) (s : List Char) : Option (Char × List Char) :=
  let digits := s.take n
  if digits.length = n then
    match Text.Hex.number? digits with
    | some value =>
      if value < 0xD800 ∨ (0xDFFF < value ∧ value < 0x110000) then
        some (Char.ofNat value, s.drop n)
      else none
    | none => none
  else none

def escape? : List Char → Option (Char × List Char)
  | [] => none
  | c :: rest =>
    if c = '\x22' ∨ c = '\\' then some (c, rest)
    else if c = 'b' then some (Char.ofNat 8, rest)
    else if c = 't' then some ('\t', rest)
    else if c = 'n' then some ('\n', rest)
    else if c = 'f' then some (Char.ofNat 12, rest)
    else if c = 'r' then some ('\r', rest)
    else if c = 'u' then codePoint? 4 rest
    else if c = 'U' then codePoint? 8 rest
    else none

def basicString? : Nat → List Char → Option (List Char × List Char)
  | 0, _ => none
  | _ + 1, [] => none
  | fuel + 1, c :: rest =>
    if c = '\x22' then some ([], rest)
    else
      match if c = '\\' then escape? rest else if isPrintable c then some (c, rest) else none with
      | none => none
      | some (c, rest) => (basicString? fuel rest).map fun (s, rest) => (c :: s, rest)

def literalString? : List Char → Option (List Char × List Char)
  | [] => none
  | c :: rest =>
    if c = '\x27' then some ([], rest)
    else if isPrintable c then (literalString? rest).map fun (s, rest) => (c :: s, rest)
    else none

def leadingQuotes (quote : Char) (s : List Char) : Nat := ((s.take 5).takeWhile (· = quote)).length

def skipFold (s : List Char) : List Char :=
  match s with
  | [] => []
  | c :: rest =>
    if isBlank c || c == '\n' then skipFold rest
    else
      match rest with
      | '\n' :: more => if c = '\r' then skipFold more else s
      | _ => s

def multilineString? : Nat → List Char → Option (List Char × List Char)
  | 0, _ => none
  | _ + 1, [] => none
  | fuel + 1, c :: rest =>
    let quotes := leadingQuotes '\x22' (c :: rest)
    if 3 ≤ quotes then
      some (List.replicate (quotes - 3) '\x22', (c :: rest).drop quotes)
    else if c = '\\' then
      match newline? (skipBlanks rest) with
      | some more => multilineString? fuel (skipFold more)
      | none =>
        match escape? rest with
        | some (c, rest) => (multilineString? fuel rest).map fun (s, rest) => (c :: s, rest)
        | none => none
    else
      match newline? (c :: rest) with
      | some more => (multilineString? fuel more).map fun (s, rest) => ('\n' :: s, rest)
      | none =>
        if isPrintable c then (multilineString? fuel rest).map fun (s, rest) => (c :: s, rest)
        else none

def multilineLiteral? : Nat → List Char → Option (List Char × List Char)
  | 0, _ => none
  | _ + 1, [] => none
  | fuel + 1, c :: rest =>
    let quotes := leadingQuotes '\x27' (c :: rest)
    if 3 ≤ quotes then
      some (List.replicate (quotes - 3) '\x27', (c :: rest).drop quotes)
    else
      match newline? (c :: rest) with
      | some more => (multilineLiteral? fuel more).map fun (s, rest) => ('\n' :: s, rest)
      | none =>
        if isPrintable c then (multilineLiteral? fuel rest).map fun (s, rest) => (c :: s, rest)
        else none

def dropNewline (s : List Char) : List Char := (newline? s).getD s

def string? : List Char → Option (List Char × List Char)
  | '\x22' :: '\x22' :: '\x22' :: rest => multilineString? (rest.length + 1) (dropNewline rest)
  | '\x22' :: rest => basicString? (rest.length + 1) rest
  | '\x27' :: '\x27' :: '\x27' :: rest => multilineLiteral? (rest.length + 1) (dropNewline rest)
  | '\x27' :: rest => literalString? rest
  | _ => none

def keyPart? : List Char → Option (String × List Char)
  | '\x22' :: rest => (basicString? (rest.length + 1) rest).map fun (s, rest) => (String.ofList s, rest)
  | '\x27' :: rest => (literalString? rest).map fun (s, rest) => (String.ofList s, rest)
  | s =>
    match s.takeWhile isBareKeyChar with
    | [] => none
    | key => some (String.ofList key, s.dropWhile isBareKeyChar)

def maxDepth : Nat := 79

/-- The parts of a key, with points between them, and blanks around these. Blanks after the last part
    are skipped. -/
def keyParts? : Nat → List Char → Option (List String × List Char)
  | 0, _ => none
  | fuel + 1, s =>
    match keyPart? (skipBlanks s) with
    | none => none
    | some (part, rest) =>
      match skipBlanks rest with
      | '.' :: rest => (keyParts? fuel rest).map fun (parts, rest) => (part :: parts, rest)
      | rest => some ([part], rest)

def key? (s : List Char) : Option (List String × List Char) :=
  (keyParts? (s.length + 1) s).filter fun (parts, _) => parts.length ≤ maxDepth

def splitKey? (parts : List String) : Option (List String × String) :=
  parts.getLast?.map fun last => (parts.dropLast, last)

def maxInteger : Nat := 1 <<< 63 - 1

def plainDigits? (isDigit : Char → Bool) : List Char → Option (List Char)
  | [] => none
  | [c] => if isDigit c then some [c] else none
  | c :: '_' :: rest => if isDigit c then (plainDigits? isDigit rest).map (c :: ·) else none
  | c :: d :: rest => if isDigit c then (plainDigits? isDigit (d :: rest)).map (c :: ·) else none

def numberOfBase (base : Nat) (digits : List Char) : Nat :=
  digits.foldl (fun n c => base * n + (Text.Hex.value? c).getD 0) 0

def isOctal (c : Char) : Bool := '0' ≤ c && c ≤ '7'

def isBinary (c : Char) : Bool := c == '0' || c == '1'

def based? (base : Nat) (isDigit : Char → Bool) (s : List Char) : Option Value :=
  match plainDigits? isDigit s with
  | some digits =>
    let n := numberOfBase base digits
    if n ≤ maxInteger then some (.natural n) else none
  | none => none

def decimal? (s : List Char) : Option Nat :=
  match plainDigits? Text.Decimal.isDigit s with
  | some digits =>
    if digits.head? = some '0' ∧ 1 < digits.length then none else some (Text.Decimal.value digits)
  | none => none

def exponent? (s : List Char) : Option Int :=
  match s with
  | '-' :: rest => (plainDigits? Text.Decimal.isDigit rest).map fun s => -(Text.Decimal.value s : Int)
  | '+' :: rest => (plainDigits? Text.Decimal.isDigit rest).map fun s => Text.Decimal.value s
  | s => (plainDigits? Text.Decimal.isDigit s).map fun s => Text.Decimal.value s

def float? (s : List Char) : Option Text.Scientific :=
  let isMark (c : Char) := c == '.' || c == 'e' || c == 'E'
  match decimal? (s.takeWhile (!isMark ·)), s.dropWhile (!isMark ·) with
  | some whole, '.' :: rest =>
    match plainDigits? Text.Decimal.isDigit (rest.takeWhile (!isMark ·)) with
    | none => none
    | some fraction =>
      let digits := Text.Decimal.value (Text.Decimal.digits whole ++ fraction)
      match rest.dropWhile (!isMark ·) with
      | [] => some ⟨digits, -fraction.length⟩
      | '.' :: _ => none
      | _ :: rest => (exponent? rest).map fun e => ⟨digits, e - fraction.length⟩
  | some whole, _ :: rest => (exponent? rest).map fun e => ⟨whole, e⟩
  | _, _ => none

def hasForm : List Char → List Char → Bool
  | [], [] => true
  | p :: ps, c :: cs => (if p = '0' then Text.Decimal.isDigit c else p == c) && hasForm ps cs
  | _, _ => false

def pairAt (place : Nat) (s : List Char) : Nat := Text.Decimal.value ((s.drop place).take 2)

def daysOfMonth (year month : Nat) : Nat :=
  if month = 2 then if year % 4 = 0 ∧ (year % 100 ≠ 0 ∨ year % 400 = 0) then 29 else 28
  else if month ∈ [4, 6, 9, 11] then 30
  else 31

def isDate (s : List Char) : Bool :=
  let month := pairAt 5 s
  let day := pairAt 8 s
  hasForm "0000-00-00".toList s && 1 ≤ month && month ≤ 12 && 1 ≤ day &&
    day ≤ daysOfMonth (100 * pairAt 0 s + pairAt 2 s) month

/-- Whether a text is a time of day, with or without a fraction of a second; a minute may have a leap
    second. -/
def isTime (s : List Char) : Bool :=
  hasForm "00:00:00".toList (s.take 8) && pairAt 0 s ≤ 23 && pairAt 3 s ≤ 59 && pairAt 6 s ≤ 60 &&
    match s.drop 8 with
    | [] => true
    | '.' :: digits => !digits.isEmpty && digits.all Text.Decimal.isDigit
    | _ => false

def isZonedTime (s : List Char) : Bool :=
  match s.reverse with
  | 'Z' :: rest | 'z' :: rest => isTime rest.reverse
  | _ =>
    let zone := s.drop (s.length - 6)
    (hasForm "+00:00".toList zone || hasForm "-00:00".toList zone) && pairAt 1 zone ≤ 23 &&
      pairAt 4 zone ≤ 59 && isTime (s.take (s.length - 6))

def isMoment (s : List Char) : Bool :=
  isDate s || isTime s ||
    (isDate (s.take 10) &&
      match s.drop 10 with
      | 'T' :: time | 't' :: time => isTime time || isZonedTime time
      | _ => false)

def isWordChar (c : Char) : Bool := isBareKeyChar c || c == '+' || c == '.' || c == ':'

/-- The word at the front of a text, and the text after it. Between a date and a time of day a blank
    may stand for the letter. -/
def nextWord (s : List Char) : List Char × List Char :=
  let word := s.takeWhile isWordChar
  match s.dropWhile isWordChar with
  | ' ' :: rest =>
    let time := rest.takeWhile isWordChar
    if isDate word && (isTime time || isZonedTime time) then
      (word ++ 'T' :: time, rest.dropWhile isWordChar)
    else (word, ' ' :: rest)
  | rest => (word, rest)

/-- The value of a word after its sign. A number written in digits must not be above all finite ones;
    below them it may be. -/
def unsigned? (negative : Bool) (s : List Char) : Option Value :=
  match decimal? s with
  | some n =>
    if negative then if n = 0 then some (.natural 0) else if n ≤ maxInteger + 1 then some .other else none
    else if n ≤ maxInteger then some (.natural n)
    else none
  | none =>
    if s = "inf".toList ∨ s = "nan".toList then some .other
    else
      match float? s with
      | some f => if negative || f.isFinite then some .other else none
      | none => none

def word? (s : List Char) : Option Value :=
  if s = "true".toList then some (.bool true)
  else if s = "false".toList then some (.bool false)
  else
    match s with
    | '+' :: rest => unsigned? false rest
    | '-' :: rest => unsigned? true rest
    | '0' :: 'x' :: rest => based? 16 Text.Hex.isDigit rest
    | '0' :: 'o' :: rest => based? 8 isOctal rest
    | '0' :: 'b' :: rest => based? 2 isBinary rest
    | s => if isMoment s then some .other else unsigned? false s

end Gateway.Toml
