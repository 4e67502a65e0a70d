namespace Gateway.Pattern

/-- The switches that a pattern can turn on and off for its parts. -/
structure Switches where
  /-- Letters stand for themselves in either case. -/
  ignoresCase : Bool := false
  isUnicode : Bool := true
  /-- Blanks and comments in the pattern stand for nothing. -/
  isSpaced : Bool := false
  deriving DecidableEq, Repr

structure SwitchChange where
  ignoresCase : Option Bool := none
  isUnicode : Option Bool := none
  isSpaced : Option Bool := none
  deriving DecidableEq, Repr

def SwitchChange.apply (change : SwitchChange) (switches : Switches) : Switches where
  ignoresCase := change.ignoresCase.getD switches.ignoresCase
  isUnicode := change.isUnicode.getD switches.isUnicode
  isSpaced := change.isSpaced.getD switches.isSpaced

structure Literal where
  char : Char
  /-- Whether it is written as the two hexadecimal digits of a byte. -/
  isByte : Bool := false
  deriving DecidableEq, Repr

inductive ClassSet where
  | empty
  | literal (x : Literal)
  | range (first last : Literal)
  | named (isNegated : Bool)
  /-- The digits, the blanks or the letters of words. -/
  | shorthand
  | bracket (isNegated : Bool) (inner : ClassSet)
  /-- Two items or more that are written one after the other. -/
  | union (items : List ClassSet)
  | operation (left right : ClassSet)

inductive Node where
  | empty
  | switch (change : SwitchChange)
  | literal (x : Literal)
  | any
  | anchor
  | wordEdge
  /-- The digits, the blanks or the letters of words. -/
  | shorthand
  | bracket (isNegated : Bool) (inner : ClassSet)
  | repetition (x : Node)
  | group (change : SwitchChange) (x : Node)
  | alternatives (xs : List Node)
  | sequence (xs : List Node)

mutual

def ClassSet.depth : ClassSet → Nat
  | .empty | .literal _ | .range _ _ | .named _ | .shorthand => 0
  | .bracket _ inner => inner.depth + 1
  | .union items => ClassSet.maxDepth items + 1
  | .operation left right => max left.depth right.depth + 1

def ClassSet.maxDepth : List ClassSet → Nat
  | [] => 0
  | item :: rest => max item.depth (ClassSet.maxDepth rest)

end

mutual

def Node.depth : Node → Nat
  | .empty | .switch _ | .literal _ | .any | .anchor | .wordEdge | .shorthand => 0
  | .bracket _ inner => inner.depth + 1
  | .repetition x | .group _ x => x.depth + 1
  | .alternatives xs | .sequence xs => Node.maxDepth xs + 1

def Node.maxDepth : List Node → Nat
  | [] => 0
  | x :: rest => max x.depth (Node.maxDepth rest)

end

def Literal.isAscii (x : Literal) : Bool := x.char.toNat < 0x80

mutual

/-- Whether a search can be built from a class. The case of letters is known of bytes only, and bytes
    must be ASCII, which they are not if the class is negated. -/
def ClassSet.isSupported (switches : Switches) : ClassSet → Bool
  | .empty => true
  | .literal x => if switches.isUnicode then !switches.ignoresCase else x.isAscii
  | .range first last =>
    if switches.isUnicode then !switches.ignoresCase else first.isAscii && last.isAscii
  | .named isNegated => if switches.isUnicode then !switches.ignoresCase else !isNegated
  | .shorthand => !switches.isUnicode
  | .bracket isNegated inner => (switches.isUnicode || !isNegated) && inner.isSupported switches
  | .union items => ClassSet.areSupported switches items
  | .operation left right => left.isSupported switches && right.isSupported switches

def ClassSet.areSupported (switches : Switches) : List ClassSet → Bool
  | [] => true
  | item :: rest => item.isSupported switches && ClassSet.areSupported switches rest

end

inductive Fault where
  /-- The pattern is not well-formed, or it asks for characters that are not known. -/
  | malformed
  /-- The pattern asks for the edge of a word in any script. -/
  | wordEdge
  deriving DecidableEq, Repr

mutual

/-- The switches after a part of a pattern, and whether it asks for the edge of a word in any script,
    unless it asks for characters that are not known. -/
def Node.scan? (switches : Switches) : Node → Option (Switches × Bool)
  | .empty | .anchor => some (switches, false)
  | .switch change => some (change.apply switches, false)
  | .literal x =>
    if if switches.isUnicode then switches.ignoresCase else x.isByte && !x.isAscii then none
    else some (switches, false)
  | .any => if switches.isUnicode then some (switches, false) else none
  | .wordEdge => some (switches, switches.isUnicode)
  | .shorthand => if switches.isUnicode then none else some (switches, false)
  | .bracket isNegated inner =>
    if (switches.isUnicode || !isNegated) && inner.isSupported switches then some (switches, false)
    else none
  | .repetition x => x.scan? switches
  | .group change x => (x.scan? (change.apply switches)).map fun (_, hasEdge) => (switches, hasEdge)
  | .alternatives xs | .sequence xs => Node.scanAll? switches xs

def Node.scanAll? (switches : Switches) : List Node → Option (Switches × Bool)
  | [] => some (switches, false)
  | x :: rest =>
    match x.scan? switches with
    | none => none
    | some (switches, hasEdge) =>
      (Node.scanAll? switches rest).map fun (switches, hasMore) => (switches, hasEdge || hasMore)

end

def depthLimit : Nat := 250

def Node.check (x : Node) : Except Fault Unit :=
  if depthLimit < x.depth then .error .malformed
  else
    match x.scan? {} with
    | none => .error .malformed
    | some (_, hasEdge) => if hasEdge then .error .wordEdge else .ok ()

end Gateway.Pattern
