import Gateway.Text.Hex
import Gateway.Text.Ascii

namespace Gateway

/-- An identifier of sixteen bytes. -/
structure Uuid where
  bytes : Bytes
  length_bytes : bytes.length = 16
  deriving DecidableEq, Repr

namespace Uuid

inductive Fault where
  | length (found : Nat)
  | character (c : Char) (offset : Nat)
  | groupCount (found : Nat)
  | groupLength (group expected found : Nat)
  deriving DecidableEq, Repr

def Fault.message : Fault → String
  | length found => "invalid length: found " ++ toString found
  | character c offset =>
    "invalid character: found `" ++ String.singleton c ++ "` at " ++ toString offset
  | groupCount found => "invalid group count: expected 5, found " ++ toString found
  | groupLength group expected found =>
    "invalid group length in group " ++ toString group ++ ": expected " ++ toString expected ++
      ", found " ++ toString found

def hyphenate (digits : List Char) : List Char :=
  digits.take 8 ++ '-' :: (digits.drop 8).take 4 ++ '-' :: (digits.drop 12).take 4 ++
    '-' :: (digits.drop 16).take 4 ++ '-' :: digits.drop 20

def chars (id : Uuid) : List Char := hyphenate (Text.Hex.encode id.bytes)

def text (id : Uuid) : String := String.ofList id.chars

def hyphens : List Nat := [8, 13, 18, 23]

def ofDigits? (digits : List Char) : Option Uuid :=
  match Text.Hex.decode? digits with
  | some bytes => if h : bytes.length = 16 then some ⟨bytes, h⟩ else none
  | none => none

def ofGroups? (s : List Char) : Option Uuid :=
  if s.length = 36 ∧ hyphens.all (fun i => s[i]? = some '-') then
    ofDigits? (s.take 8 ++ (s.drop 9).take 4 ++ (s.drop 14).take 4 ++ (s.drop 19).take 4 ++ s.drop 24)
  else none

def urn : List Char := "urn:uuid:".toList

def afterUrn? (s : List Char) : Option (List Char) :=
  if (s.take 9).map Text.Ascii.lowerChar = urn then some (s.drop 9) else none

def unbraced? (s : List Char) : Option (List Char) :=
  match s with
  | '\x7b' :: rest => if rest.getLast? = some '\x7d' then some rest.dropLast else none
  | _ => none

/-- The form in which the groups of a text are looked at: whether they are known to be set apart by
    hyphens, and the text itself. -/
structure Form where
  grouped : Bool
  text : List Char

def size (s : List Char) : Nat := (Text.Utf8.encode s).length

def form (s : List Char) : Form :=
  if size s = 36 then ⟨true, s⟩
  else if size s = 38 then
    match unbraced? s with
    | some inside => ⟨true, inside⟩
    | none => ⟨false, s⟩
  else if size s = 45 then
    match afterUrn? s with
    | some inside => ⟨true, inside⟩
    | none => ⟨false, s⟩
  else ⟨false, s⟩

/-- Reads the characters of `s`, the first of them at byte `offset`, up to the first that is
    neither a digit nor a hyphen; gives the offsets of the hyphens. -/
def scan (offset : Nat) : List Char → Except Fault (List Nat)
  | [] => .ok []
  | c :: rest =>
    if c = '-' then
      match scan (offset + 1) rest with
      | .ok hyphens => .ok (offset :: hyphens)
      | .error fault => .error fault
    else if Text.Hex.isDigit c then scan (offset + 1) rest
    else .error (.character c offset)

/-- The first hyphen that is not where it belongs, in a text that starts at byte `start` and whose
    last group is `last` characters longer than the groups and hyphens before it. -/
def groupFault (start last : Nat) (found : List Nat) : Fault :=
  let misplaced := (hyphens.zip found).findIdx? fun (expected, offset) => expected + start ≠ offset
  match misplaced with
  | some group =>
    let begin := [0, 9, 14, 19].getD group 0
    .groupLength group (if group = 0 then 8 else 4) (found.getD group 0 - start - begin)
  | none => .groupLength 4 12 last

def Form.fault (f : Form) : Fault :=
  let n := size f.text
  if n = 0 ∨ 45 < n then .length n
  else
    let (start, inside, grouped) :=
      if f.grouped then (0, f.text, true)
      else
        match unbraced? f.text with
        | some inside => (1, inside, true)
        | none =>
          match afterUrn? f.text with
          | some inside => (9, inside, true)
          | none => (0, f.text, false)
    match scan start inside with
    | .error fault => fault
    | .ok found =>
      if !grouped && found.isEmpty then .length n
      else if found.length ≠ 4 then .groupCount (found.length + 1)
      else groupFault start (n - 24) found

def parse (s : String) : Except Fault Uuid :=
  let f := form s.toList
  let id? :=
    if f.grouped then ofGroups? f.text
    else if size f.text = 32 then ofDigits? f.text
    else none
  match id? with
  | some id => .ok id
  | none => .error f.fault

end Uuid

end Gateway
