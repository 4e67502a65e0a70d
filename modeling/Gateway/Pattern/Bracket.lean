import Gateway.Pattern.Escape

namespace Gateway.Pattern

def classNames : List String :=
  ["alnum", "alpha", "ascii", "blank", "cntrl", "digit", "graph", "lower", "print", "punct", "space",
    "upper", "word", "xdigit"]

def named? : List Char → Option (Bool × List Char)
  | ':' :: rest =>
    let (isNegated, rest) := match rest with
      | '^' :: rest => (true, rest)
      | rest => (false, rest)
    match rest.dropWhile (· ≠ ':') with
    | ':' :: ']' :: after =>
      if String.ofList (rest.takeWhile (· ≠ ':')) ∈ classNames then some (isNegated, after) else none
    | _ => none
  | _ => none

def primitive? (isSpaced : Bool) : List Char → Option (Node × List Char)
  | [] => none
  | '\\' :: rest => escape? isSpaced rest
  | c :: rest => some (.literal ⟨c, false⟩, rest)

def itemOf? : Node → Option ClassSet
  | .literal x => some (.literal x)
  | .shorthand => some .shorthand
  | _ => none

/-- Whether a hyphen stands for itself, as a bracket or a hyphen comes after it. Of a comment between
    them only the mark and blanks are passed over. -/
def isLoneHyphen (isSpaced : Bool) (afterHyphen : List Char) : Bool :=
  let next :=
    if isSpaced then
      match afterHyphen.dropWhile Text.isBlank with
      | '#' :: rest => rest.dropWhile Text.isBlank
      | rest => rest
    else afterHyphen
  next.head? = some ']' || next.head? = some '-'

def range? (isSpaced : Bool) (s : List Char) : Option (ClassSet × List Char) :=
  match primitive? isSpaced s with
  | none => none
  | some (first, rest) =>
    match skipSpace isSpaced rest with
    | '-' :: rest =>
      if isLoneHyphen isSpaced rest then (itemOf? first).map fun item => (item, '-' :: rest)
      else
        match first, primitive? isSpaced (skipSpace isSpaced rest) with
        | .literal a, some (.literal b, rest) =>
          if a.char.toNat ≤ b.char.toNat then some (.range a b, rest) else none
        | _, _ => none
    | rest => (itemOf? first).map fun item => (item, rest)

def unionOf : List ClassSet → ClassSet
  | [] => .empty
  | [item] => item
  | items => .union items

def operated : Option ClassSet → ClassSet → ClassSet
  | none, right => right
  | some left, right => .operation left right

def leadingHyphens (isSpaced : Bool) : Nat → List ClassSet → List Char → List ClassSet × List Char
  | 0, items, s => (items, s)
  | fuel + 1, items, s =>
    match s with
    | '-' :: rest =>
      leadingHyphens isSpaced fuel (.literal ⟨'-', false⟩ :: items) (skipSpace isSpaced rest)
    | s => (items, s)

/-- What stands at the front of a class and would have another meaning further on: hyphens, or else
    a closing bracket. -/
def leadingItems (isSpaced : Bool) (s : List Char) : List ClassSet × List Char :=
  match leadingHyphens isSpaced s.length [] s with
  | ([], ']' :: rest) => ([.literal ⟨']', false⟩], skipSpace isSpaced rest)
  | answer => answer

mutual

def bracket? (isSpaced : Bool) : Nat → List Char → Option (Bool × ClassSet × List Char)
  | 0, _ => none
  | fuel + 1, s =>
    let (isNegated, s) := match skipSpace isSpaced s with
      | '^' :: rest => (true, skipSpace isSpaced rest)
      | s => (false, s)
    let (items, s) := leadingItems isSpaced s
    (items? isSpaced fuel none items s).map fun (inner, rest) => (isNegated, inner, rest)

/-- The items of a class up to its closing bracket. Those read last come first in `items`, and `left`
    is what an operation before them applies to. -/
def items? (isSpaced : Bool) : Nat → Option ClassSet → List ClassSet → List Char →
    Option (ClassSet × List Char)
  | 0, _, _, _ => none
  | fuel + 1, left, items, s =>
    match skipSpace isSpaced s with
    | [] => none
    | ']' :: rest => some (operated left (unionOf items.reverse), rest)
    | '[' :: rest =>
      match named? rest with
      | some (isNegated, rest) => items? isSpaced fuel left (.named isNegated :: items) rest
      | none =>
        match bracket? isSpaced fuel rest with
        | some (isNegated, inner, rest) =>
          items? isSpaced fuel left (.bracket isNegated inner :: items) rest
        | none => none
    | '&' :: '&' :: rest | '-' :: '-' :: rest | '~' :: '~' :: rest =>
      items? isSpaced fuel (some (operated left (unionOf items.reverse))) [] rest
    | s =>
      match range? isSpaced s with
      | some (item, rest) => items? isSpaced fuel left (item :: items) rest
      | none => none

end

end Gateway.Pattern
