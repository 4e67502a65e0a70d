import Gateway.Text.Utf8
import Gateway.Text.Ascii

namespace Gateway.Http

/-- The parts of a request target that a request is answered by. -/
structure Uri where
  path : String
  query : Option String
  deriving DecidableEq, Repr

namespace Uri

def maxLength : Nat := 65534

def maxScheme : Nat := 64

def isAsciiAlphanumeric (c : Char) : Bool :=
  ('0' ≤ c && c ≤ '9') || ('a' ≤ c && c ≤ 'z') || ('A' ≤ c && c ≤ 'Z')

def isSchemeChar (c : Char) : Bool := isAsciiAlphanumeric c || "+-.~".toList.contains c

def isPathChar (c : Char) : Bool :=
  let n := c.toNat
  n == 0x21 || n == 0x22 || (0x24 ≤ n && n ≤ 0x3B) || n == 0x3D || (0x40 ≤ n && n ≤ 0x5F) ||
    (0x61 ≤ n && n ≤ 0x7E) || 0x80 ≤ n

def isQueryChar (c : Char) : Bool :=
  let n := c.toNat
  n == 0x21 || (0x24 ≤ n && n ≤ 0x3B) || n == 0x3D || (0x3F ≤ n && n ≤ 0x7E) || 0x80 ≤ n

def isHostChar (c : Char) : Bool := isAsciiAlphanumeric c || "!$&'()*+,-.;=_~".toList.contains c

def dropFragment (s : List Char) : List Char := s.takeWhile (· ≠ '#')

def ofPath? (s : List Char) : Option Uri :=
  let s := dropFragment s
  let path := s.takeWhile (· ≠ '?')
  let query? := match s.dropWhile (· ≠ '?') with
    | [] => none
    | _ :: query => some query
  if path.all isPathChar && (query?.getD []).all isQueryChar then
    some ⟨if path.isEmpty then "/" else String.ofList path, query?.map String.ofList⟩
  else none

/-- What the characters of a host part, read so far, tell about it. -/
structure Authority where
  colons : Nat
  opened : Bool
  closed : Bool
  percent : Bool
  atSign : Bool

def Authority.start : Authority := ⟨0, false, false, false, false⟩

def Authority.step? (a : Authority) (c : Char) : Option Authority :=
  let a' := { a with atSign := false }
  if c = ':' then if a.colons < 8 then some { a' with colons := a.colons + 1 } else none
  else if c = '[' then if a.percent || a.opened then none else some { a' with opened := true }
  else if c = ']' then
    if !a.opened || a.closed then none
    else some { a' with closed := true, colons := 0, percent := false }
  else if c = '@' then some { a' with atSign := true, colons := 0, percent := false }
  else if c = '%' then some { a' with percent := true }
  else if isHostChar c then some a'
  else none

def Authority.accepts (a : Authority) : Bool :=
  a.opened == a.closed && a.colons ≤ 1 && !a.atSign && !a.percent

def endsAuthority (c : Char) : Bool := c == '/' || c == '?' || c == '#'

def splitAuthority? (s : List Char) : Option (List Char × List Char) :=
  let host := s.takeWhile (!endsAuthority ·)
  match host.foldlM Authority.step? Authority.start with
  | some a => if a.accepts then some (host, s.dropWhile (!endsAuthority ·)) else none
  | none => none

def splitScheme (s : List Char) : Option (List Char × List Char) :=
  match s.dropWhile isSchemeChar with
  | ':' :: '/' :: '/' :: rest => some (s.takeWhile isSchemeChar, rest)
  | _ => none

def read? (text : String) : Option Uri :=
  let s := text.toList
  if maxLength < (Text.Utf8.encode s).length then none
  else
    match s with
    | [] => none
    | ['*'] => some ⟨"*", none⟩
    | '/' :: _ => ofPath? s
    | _ =>
      match splitScheme s with
      | some (scheme, rest) =>
        if maxScheme < scheme.length then none
        else
          match splitAuthority? rest with
          | some (_ :: _, path) => ofPath? path
          | _ => none
      | none =>
        match splitAuthority? s with
        | some (_ :: _, []) => some ⟨"", none⟩
        | _ => none

end Uri

end Gateway.Http
