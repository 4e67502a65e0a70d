import Gateway.Json.Value
import Gateway.Named
import Gateway.Text.Decimal

namespace Gateway.Json

def bool? : Value → Option Bool
  | .bool b => some b
  | _ => none

def text? : Value → Option String
  | .string s => some s
  | _ => none

def word? : Value → Option Nat
  | .natural n => if n ≤ Text.Decimal.maxWord then some n else none
  | _ => none

def unit? : Value → Option String
  | .string s => some s
  | .object [(name, .null)] => some name
  | _ => none

def named? {α : Type} [Named α] (value : Value) : Option α := (unit? value).bind Named.read?

structure RecordRules where
  /-- Whether a member that is no field is refused. -/
  refusesUnknown : Bool
  /-- Whether a list may be longer than the fields. -/
  allowsSurplus : Bool
  deriving DecidableEq, Repr

abbrev Fields := List (String × Value)

namespace Fields

def select? (names : List String) (rules : RecordRules) : List (String × Value) → Option Fields
  | [] => some []
  | (name, value) :: rest =>
    match select? names rules rest with
    | none => none
    | some fields =>
      if names.contains name then
        if fields.any (·.1 == name) then none else some ((name, value) :: fields)
      else if rules.refusesUnknown then none
      else some fields

/-- The fields of a record, from an object, or from a list in the order of the names. -/
def read? (names : List String) (rules : RecordRules) : Value → Option Fields
  | .object members => select? names rules members
  | .array items =>
    if items.length ≤ names.length ∨ rules.allowsSurplus then some (names.zip items) else none
  | _ => none

def get? (fields : Fields) (name : String) : Option Value := fields.lookup name

def required? {α : Type} (fields : Fields) (name : String) (read? : Value → Option α) : Option α :=
  match fields.get? name with
  | some value => read? value
  | none => none

def optional? {α : Type} (fields : Fields) (name : String) (read? : Value → Option α) (default : α) :
    Option α :=
  match fields.get? name with
  | some value => read? value
  | none => some default

end Fields

end Gateway.Json
