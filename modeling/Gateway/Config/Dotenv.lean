import Gateway.Text.Alphanumeric
import Gateway.Text.Blank
import Gateway.Text.Utf8

namespace Gateway

/-- The variables of a process, each with its name and its value. -/
abbrev Environment := List (Bytes × Bytes)

abbrev Variables := List (String × String)

def setVariable {α : Type} [BEq α] (vars : List (α × α)) (name value : α) : List (α × α) :=
  if vars.any (·.1 == name) then vars.map fun e => if e.1 == name then (name, value) else e
  else vars ++ [(name, value)]

namespace Environment

def get? (env : Environment) (name : String) : Option String :=
  (env.lookup (Text.bytes name)).bind Text.ofBytes?

/-- Looks a name up among the lines `name=value` that a process holds its variables in: what follows
    the name and an equals sign in the first line that begins with them. A name may so hold an equals
    sign and a part of a value. -/
def search? (env : Environment) (name : List Char) : Option String :=
  if name.isEmpty then none
  else
    let front := Text.bytes (String.ofList name ++ "=")
    let line? := (env.map fun (key, value) => key ++ Text.bytes "=" ++ value).find? front.isPrefixOf
    line?.bind fun line => Text.ofBytes? (line.drop front.length)

def set (env : Environment) (name value : String) : Environment :=
  setVariable env (Text.bytes name) (Text.bytes value)

/-- Reads all variables; it fails where one of them has a name or a value that is no text. -/
def texts? : Environment → Option Variables
  | [] => some []
  | (name, value) :: rest => do
    let name ← Text.ofBytes? name
    let value ← Text.ofBytes? value
    return (name, value) :: (← texts? rest)

end Environment

namespace Dotenv

/-- Where a line ends: it goes on while a quotation or an escape is open. -/
inductive Quotation where
  | complete
  | blank
  | escape
  | strong
  | strongEscape
  | weak
  | weakEscape
  | comment
  deriving DecidableEq, Repr

def Quotation.step (q : Quotation) (c : Char) : Quotation :=
  match q with
  | .blank =>
    if c = '#' then .comment
    else if c = '\\' then .escape
    else if c = '\x22' then .weak
    else if c = '\x27' then .strong
    else .complete
  | .complete =>
    if Text.isBlank c && c != '\n' && c != '\r' then .blank
    else if c = '\\' then .escape
    else if c = '\x22' then .weak
    else if c = '\x27' then .strong
    else .complete
  | .escape => .complete
  | .strong => if c = '\\' then .strongEscape else if c = '\x27' then .complete else .strong
  | .strongEscape => .strong
  | .weak => if c = '\\' then .weakEscape else if c = '\x22' then .complete else .weak
  | .weakEscape => .weak
  | .comment => .comment

def scanLine (q : Quotation) : List Char → List Char × Quotation
  | [] => ([], q)
  | c :: rest =>
    match q.step c with
    | .comment => ([], .comment)
    | q =>
      let (kept, q) := scanLine q rest
      (c :: kept, q)

def splitLine : Bytes → Bytes × Bytes
  | [] => ([], [])
  | b :: rest =>
    if b = 10 then ([b], rest)
    else
      let (line, rest) := splitLine rest
      (b :: line, rest)

def chomp (s : List Char) : List Char :=
  match s.reverse with
  | '\n' :: '\r' :: rest => rest.reverse
  | '\n' :: rest => rest.reverse
  | _ => s

/-- The next line, continued while a quotation is open, and the rest; `none` inside if the line
    cannot be read. -/
def nextLine (fuel : Nat) (q : Quotation) (sofar : List Char) (bytes : Bytes) :
    Option (Option (List Char) × Bytes) :=
  match fuel with
  | 0 => none
  | fuel + 1 =>
    match bytes with
    | [] => if q = .complete then none else some (none, [])
    | _ =>
      let (line, rest) := splitLine bytes
      match Text.Utf8.decode line with
      | .error _ => some (none, rest)
      | .ok line =>
        if (Text.trimLeft (sofar ++ line)).head? = some '#' then some (some [], rest)
        else
          match scanLine q line with
          | (_, .complete) => some (some (chomp (sofar ++ line)), rest)
          | (kept, .comment) => some (some (sofar ++ kept), rest)
          | (_, q) => nextLine fuel q (sofar ++ line) rest

inductive Reference where
  | none
  | plain
  | braced
  deriving DecidableEq, Repr

structure Reading where
  strong : Bool
  weak : Bool
  escaped : Bool
  /-- Whether only blanks or a comment may follow. -/
  ended : Bool
  reference : Reference
  /-- The name of the variable referred to, backwards. -/
  name : List Char
  output : List Char
  deriving DecidableEq, Repr

def Reading.start : Reading := ⟨false, false, false, false, .none, [], []⟩

def resolve (env : Environment) (seen : Variables) (name : List Char) : String :=
  match env.search? name with
  | some value => value
  | none => (seen.lookup (String.ofList name)).getD ""

def Reading.substitute (r : Reading) (lookup : List Char → String) : Reading :=
  { r with name := [], output := (lookup r.name.reverse).toList.reverse ++ r.output }

def Reading.push (r : Reading) (c : Char) : Reading := { r with output := c :: r.output }

def Reading.step (lookup : List Char → String) (r : Reading) (c : Char) : Option Reading :=
  if r.ended then if c = ' ' ∨ c = '\t' then some r else none
  else if r.escaped then
    if c = '\\' ∨ c = '\x27' ∨ c = '\x22' ∨ c = '$' ∨ c = ' ' then
      some { r.push c with escaped := false }
    else if c = 'n' then some { r.push '\n' with escaped := false }
    else none
  else if r.strong then some (if c = '\x27' then { r with strong := false } else r.push c)
  else if r.reference ≠ .none ∧ Text.isAlphanumeric c then some { r with name := c :: r.name }
  else if r.reference = .plain then
    if c = '\x7b' ∧ r.name.isEmpty then some { r with reference := .braced }
    else
      let r := r.substitute lookup
      if c = '$' then some r else some { r.push c with reference := .none }
  else if r.reference = .braced then
    if c = '\x7d' then some { r.substitute lookup with reference := .none }
    else some { r with name := c :: r.name }
  else if c = '$' then some { r with reference := .plain }
  else if r.weak then
    some (if c = '\x22' then { r with weak := false }
      else if c = '\\' then { r with escaped := true }
      else r.push c)
  else if c = '\x27' then some { r with strong := true }
  else if c = '\x22' then some { r with weak := true }
  else if c = '\\' then some { r with escaped := true }
  else if c = ' ' ∨ c = '\t' then some { r with ended := true }
  else some (r.push c)

def readValue (lookup : List Char → String) (r : Reading) : List Char → Option Reading
  | [] => some r
  | c :: rest =>
    if r.ended ∧ c = '#' then some r
    else
      match r.step lookup c with
      | some r => readValue lookup r rest
      | none => none

def value? (lookup : List Char → String) (s : List Char) : Option String :=
  match readValue lookup .start s with
  | some r =>
    if r.reference = .braced ∨ r.strong ∨ r.weak then none
    else some (String.ofList (r.substitute lookup).output.reverse)
  | none => none

def isKeyStart (c : Char) : Bool := ('a' ≤ c && c ≤ 'z') || ('A' ≤ c && c ≤ 'Z') || c == '_'

def isKeyChar (c : Char) : Bool := isKeyStart c || ('0' ≤ c && c ≤ '9') || c == '.'

def key? (s : List Char) : Option (List Char × List Char) :=
  match s with
  | c :: _ =>
    if isKeyStart c then some (s.takeWhile isKeyChar, Text.trimLeft (s.dropWhile isKeyChar)) else none
  | [] => none

/-- The name at the front of a line and what follows its equals sign; the word `export` may stand
    before the name. -/
def assignment? (s : List Char) : Option (List Char × List Char) :=
  match key? s with
  | some (key, '=' :: rest) => some (key, Text.trimLeft rest)
  | some (key, rest) =>
    if key = "export".toList then
      match key? rest with
      | some (key, '=' :: rest) => some (key, Text.trimLeft rest)
      | _ => none
    else none
  | none => none

inductive Line where
  | nothing
  | malformed
  | assignment (name value : String)
  deriving DecidableEq, Repr

def readLine (env : Environment) (seen : Variables) (line : List Char) : Line :=
  match Text.trim line with
  | [] => .nothing
  | '#' :: _ => .nothing
  | s =>
    match assignment? s with
    | none => .malformed
    | some (key, rest) =>
      let key := String.ofList key
      match rest with
      | [] | '#' :: _ => .assignment key ""
      | _ =>
        match value? (resolve env seen) rest with
        | some value => .assignment key value
        | none => .malformed

/-- Sets the variables of a file line by line, up to the first line that is malformed. A variable
    that is set to a text already keeps its value. -/
def loadLines : Nat → Environment → Variables → Bytes → Environment
  | 0, env, _, _ => env
  | fuel + 1, env, seen, bytes =>
    match nextLine (bytes.length + 2) .complete [] bytes with
    | none | some (none, _) => env
    | some (some line, rest) =>
      match readLine env seen line with
      | .nothing => loadLines fuel env seen rest
      | .malformed => env
      | .assignment name value =>
        let seen := setVariable seen name value
        let env := if (env.get? name).isSome then env else env.set name value
        loadLines fuel env seen rest

def byteOrderMark : Bytes := [0xEF, 0xBB, 0xBF]

def load (env : Environment) (bytes : Bytes) : Environment :=
  let bytes := if byteOrderMark.isPrefixOf bytes then bytes.drop 3 else bytes
  loadLines (bytes.length + 1) env [] bytes

end Dotenv

end Gateway
