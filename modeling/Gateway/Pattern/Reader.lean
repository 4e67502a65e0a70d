import Gateway.Pattern.Bracket
import Gateway.Text.Alphanumeric

namespace Gateway.Pattern

/-- A place in a pattern: what follows it, whether blanks stand for nothing there, and the names of
    the groups before it. -/
structure Cursor where
  rest : List Char
  isSpaced : Bool := false
  names : List (List Char) := []

/-- The switches between a question mark and the end of a group's head, and what follows the head.
    The flag tells whether the group ends there too. Switches before a hyphen are turned on, and
    those after it off. -/
def switches? (isOn isDangling : Bool) (seen : List Char) (change : SwitchChange) :
    List Char → Option (SwitchChange × Bool × List Char)
  | [] => none
  | c :: rest =>
    if c = ':' ∨ c = ')' then
      if isDangling || (c = ')' && seen.isEmpty) then none else some (change, c = ')', rest)
    else if c = '-' then if isOn then switches? false true seen change rest else none
    else if c ∉ "imsUuRx".toList ∨ c ∈ seen then none
    else
      let change : SwitchChange :=
        if c = 'i' then { change with ignoresCase := some isOn }
        else if c = 'u' then { change with isUnicode := some isOn }
        else if c = 'x' then { change with isSpaced := some isOn }
        else change
      switches? isOn false (c :: seen) change rest

def groupName? (s : List Char) : Option (List Char × List Char) :=
  let isInner (c : Char) := c = '_' || c = '.' || c = '[' || c = ']' || Text.isAlphanumeric c
  match s.takeWhile (· ≠ '>'), s.dropWhile (· ≠ '>') with
  | first :: name, _ :: rest =>
    if (first = '_' || Text.isAlphabetic first) && name.all isInner then some (first :: name, rest)
    else none
  | _, _ => none

inductive GroupHead where
  | switch (change : SwitchChange)
  /-- That a group begins, in which switches may change. -/
  | group (change : SwitchChange)

def namedGroup? (p : Cursor) (s : List Char) : Option (GroupHead × Cursor) :=
  match groupName? s with
  | some (name, rest) =>
    if name ∈ p.names then none else some (.group {}, { p with rest, names := name :: p.names })
  | none => none

def head? (p : Cursor) : Option (GroupHead × Cursor) :=
  match skipSpace p.isSpaced p.rest with
  | '?' :: '<' :: '=' :: _ | '?' :: '<' :: '!' :: _ => none
  | '?' :: 'P' :: '<' :: rest => namedGroup? p rest
  | '?' :: '<' :: rest => namedGroup? p rest
  | '?' :: rest =>
    (switches? true false [] {} rest).map fun (change, isEnd, rest) =>
      (if isEnd then .switch change else .group change, { p with rest })
  | rest => some (.group {}, { p with rest })

def single? (p : Cursor) : List Char → Option (Node × Cursor)
  | [] => none
  | '[' :: rest =>
    (bracket? p.isSpaced (2 * rest.length + 2) rest).map fun (isNegated, inner, rest) =>
      (.bracket isNegated inner, { p with rest })
  | '\\' :: rest => (escape? p.isSpaced rest).map fun (node, rest) => (node, { p with rest })
  | c :: rest =>
    if c = '\x7b' then none
    else
      let node : Node :=
        if c = '.' then .any else if c = '^' ∨ c = '$' then .anchor else .literal ⟨c, false⟩
      some (node, { p with rest })

def isRepeatable : Node → Bool
  | .empty | .switch _ => false
  | _ => true

def sequenceOf : List Node → Node
  | [] => .empty
  | [x] => x
  | xs => .sequence xs

def alternativesOf : List Node → Node
  | [x] => x
  | xs => .alternatives xs

mutual

/-- Nodes one after the other, up to a bar, a closing bracket or the end. Those read last come first
    in `done`. -/
def sequence? : Nat → List Node → Cursor → Option (Node × Cursor)
  | 0, _, _ => none
  | fuel + 1, done, p =>
    match skipSpace p.isSpaced p.rest with
    | [] => some (sequenceOf done.reverse, { p with rest := [] })
    | c :: rest =>
      if c = '|' ∨ c = ')' then some (sequenceOf done.reverse, { p with rest := c :: rest })
      else if c = '?' ∨ c = '*' ∨ c = '+' then
        match done with
        | [] => none
        | x :: done =>
          if isRepeatable x then
            let rest := match rest with
              | '?' :: rest => rest
              | rest => rest
            sequence? fuel (.repetition x :: done) { p with rest }
          else none
      else
        match if c = '(' then group? fuel { p with rest } else single? p (c :: rest) with
        | some (x, p) => sequence? fuel (x :: done) p
        | none => none

def alternatives? : Nat → List Node → Cursor → Option (Node × Cursor)
  | 0, _, _ => none
  | fuel + 1, done, p =>
    match sequence? fuel [] p with
    | none => none
    | some (x, p) =>
      match p.rest with
      | '|' :: rest => alternatives? fuel (x :: done) { p with rest }
      | _ => some (alternativesOf (x :: done).reverse, p)

def group? : Nat → Cursor → Option (Node × Cursor)
  | 0, _ => none
  | fuel + 1, p =>
    match head? p with
    | none => none
    | some (.switch change, p) =>
      some (.switch change, { p with isSpaced := change.isSpaced.getD p.isSpaced })
    | some (.group change, inner) =>
      match alternatives? fuel [] { inner with isSpaced := change.isSpaced.getD p.isSpaced } with
      | some (x, ⟨')' :: rest, _, names⟩) => some (.group change x, ⟨rest, p.isSpaced, names⟩)
      | _ => none

end

def read? (s : List Char) : Option Node :=
  match alternatives? (3 * s.length + 3) [] { rest := s } with
  | some (x, ⟨[], _, _⟩) => some x
  | _ => none

def check (s : List Char) : Except Fault Unit :=
  match read? s with
  | some x => x.check
  | none => .error .malformed

end Gateway.Pattern
