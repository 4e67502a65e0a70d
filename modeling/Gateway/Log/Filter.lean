import Gateway.Pattern.Reader
import Gateway.Text.Alphanumeric
import Gateway.Text.Ascii
import Gateway.Text.Blank
import Gateway.Text.Decimal
import Gateway.Text.Utf8

namespace Gateway

inductive LogFilterFault where
  | directive
  | level
  /-- The value of a field is a pattern that no search can be built from. -/
  | pattern (fault : Pattern.Fault)
  deriving DecidableEq, Repr

def LogFilterFault.message : LogFilterFault → String
  | directive => "invalid filter directive"
  | level =>
    "error parsing level filter: expected one of \"off\", \"error\", \"warn\", \"info\", \"debug\", " ++
      "\"trace\", or a number 0-5"
  | pattern .malformed => "invalid field filter: error building NFA"
  | pattern .wordEdge =>
    "invalid field filter: unsupported regex feature for DFAs: cannot build DFAs for regexes with " ++
      "Unicode word boundaries; switch to ASCII word boundaries, or heuristically enable Unicode " ++
      "word boundaries or use a different regex engine"

namespace LogFilter

def levels : List String := ["off", "error", "warn", "info", "debug", "trace"]

def isLevel (s : List Char) : Bool :=
  s.isEmpty || (Text.Decimal.read? 5 s).isSome ||
    levels.any fun name => Text.Ascii.sameText name (String.ofList s)

def isUnsigned (s : List Char) : Bool :=
  ["inf", "infinity", "nan"].any (Text.Ascii.sameText · (String.ofList s)) ||
    let isMark (c : Char) := c == '.' || c == 'e' || c == 'E'
    let whole := s.takeWhile (!isMark ·)
    let afterWhole := s.dropWhile (!isMark ·)
    let (fraction, afterFraction) := match afterWhole with
      | '.' :: rest => (rest.takeWhile (!isMark ·), rest.dropWhile (!isMark ·))
      | rest => ([], rest)
    let isExponent := match afterFraction with
      | [] => true
      | '.' :: _ => false
      | _ :: '+' :: digits | _ :: '-' :: digits | _ :: digits =>
        !digits.isEmpty && digits.all Text.Decimal.isDigit
    (!whole.isEmpty || !fraction.isEmpty) && (whole ++ fraction).all Text.Decimal.isDigit && isExponent

def isNumber : List Char → Bool
  | '+' :: rest | '-' :: rest => isUnsigned rest
  | s => isUnsigned s

def checkValue (s : List Char) : Except LogFilterFault Unit :=
  if isNumber s then .ok () else (Pattern.check s).mapError .pattern

/-- Checks a field: a name, and after an equals sign a value. What follows a second such sign does not
    count. -/
def checkField (s : List Char) : Except LogFilterFault Unit :=
  match s.dropWhile (· ≠ '=') with
  | [] => .ok ()
  | _ :: rest => checkValue (rest.takeWhile (· ≠ '='))

def textBetween (directive : Bytes) (first last : Nat) : List Char :=
  Text.Utf8.lossy ((directive.take last).drop first)

/-- What a directive is about at a place in it. The numbers are byte offsets at which the span, the
    field or the level begins. -/
inductive Place where
  | start
  | levelOrTarget
  | span
  | field (start : Nat)
  | afterFields
  | afterSpan
  | level (start : Nat)
  deriving DecidableEq, Repr

/-- Takes the character at byte `offset` of a trimmed directive into account. The text of a field is
    taken at the same offsets of the untrimmed one. -/
def step (directive : Bytes) (offset : Nat) (c : Char) : Place → Except LogFilterFault Place
  | .start =>
    if c = '[' then .ok .span
    else if c = '-' ∨ c = ':' ∨ c = '_' ∨ Text.isAlphanumeric c then .ok .levelOrTarget
    else .error .directive
  | .levelOrTarget =>
    if c = '=' then .ok (.level (offset + 1))
    else if c = '[' then .ok .span
    else .ok .levelOrTarget
  | .span =>
    if c = ']' then .ok .afterSpan
    else if c = '\x7b' then .ok (.field (offset + 1))
    else .ok .span
  | .field start =>
    if c ≠ '\x7d' then .ok (.field start)
    else if offset = start then .error .directive
    else (checkField (textBetween directive start offset)).map fun () => .afterFields
  | .afterFields => if c = ']' then .ok .afterSpan else .error .directive
  | .afterSpan => if c = '=' then .ok (.level (offset + 1)) else .error .directive
  | .level start => .ok (.level start)

def walk (directive : Bytes) (offset : Nat) (place : Place) : List Char → Except LogFilterFault Place
  | [] => .ok place
  | c :: rest =>
    match step directive offset c place with
    | .ok place => walk directive (offset + (Text.Utf8.encodeChar c).length) place rest
    | .error fault => .error fault

/-- Checks one directive. Its trimmed text is walked, and the level is what follows its offset in
    the untrimmed text. -/
def checkDirective (s : List Char) : Except LogFilterFault Unit :=
  let directive := Text.Utf8.encode s
  match walk directive 0 .start (Text.trim s) with
  | .error fault => .error fault
  | .ok (.level start) =>
    if isLevel (textBetween directive start directive.length) then .ok () else .error .level
  | .ok .levelOrTarget | .ok .afterSpan => .ok ()
  | .ok .start | .ok .span | .ok (.field _) | .ok .afterFields => .error .directive

def directives : List Char → List (List Char)
  | [] => [[]]
  | c :: rest =>
    if c = ',' then [] :: directives rest
    else
      match directives rest with
      | [] => [[c]]
      | first :: more => (c :: first) :: more

def checkAll : List (List Char) → Except LogFilterFault Unit
  | [] => .ok ()
  | directive :: rest =>
    match checkDirective directive with
    | .ok () => checkAll rest
    | .error fault => .error fault

def check (filter : String) : Except LogFilterFault Unit :=
  checkAll ((directives filter.toList).filter (!·.isEmpty))

end LogFilter

end Gateway
