import Gateway.Json.Value

namespace Gateway.Toml

open Json (Value)

inductive Node where
  | value (v : Value)
  /-- A table. It is implicit as long as no header names it, and dotted if a dotted key made it. -/
  | table (implicit dotted : Bool) (entries : List (String × Node))
  /-- The tables that headers in double brackets made. -/
  | tables (items : List (List (String × Node)))

abbrev Entries := List (String × Node)

def put (entries : Entries) (key : String) (node : Node) : Entries :=
  if entries.any (·.1 == key) then entries.map fun e => if e.1 == key then (key, node) else e
  else entries ++ [(key, node)]

def modifyLast? (f : Entries → Option Entries) : List Entries → Option (List Entries)
  | [] => none
  | [last] => (f last).map ([·])
  | first :: rest => (modifyLast? f rest).map (first :: ·)

/-- Changes the table at the end of a path; tables on the way come into being. For a dotted key, no
    table on the way may be named by a header. The changing function is told whether a dotted key
    made the table. -/
def modifyAt? (dotted : Bool) (f : Bool → Entries → Option Entries) :
    List String → Bool → Entries → Option Entries
  | [], isDotted, entries => f isDotted entries
  | key :: path, _, entries =>
    match entries.lookup key with
    | none => (modifyAt? dotted f path dotted []).map fun sub =>
        put entries key (.table true dotted sub)
    | some (.value _) => none
    | some (.tables items) => (modifyLast? (modifyAt? dotted f path false) items).map fun items =>
        put entries key (.tables items)
    | some (.table implicit isDotted sub) =>
      if dotted && !implicit then none
      else (modifyAt? dotted f path isDotted sub).map fun sub =>
        put entries key (.table implicit isDotted sub)

def insert? (path : List String) (key : String) (value : Value) (entries : Entries) : Option Entries :=
  modifyAt? true (fun isDotted entries =>
    if isDotted = path.isEmpty ∨ (entries.lookup key).isSome then none
    else some (entries ++ [(key, .value value)])) path false entries

def openTable? (path : List String) (key : String) (entries : Entries) : Option Entries :=
  modifyAt? false (fun _ entries =>
    match entries.lookup key with
    | none => some (put entries key (.table false false []))
    | some (.table true false sub) => some (put entries key (.table false false sub))
    | some _ => none) path false entries

def openItem? (path : List String) (key : String) (entries : Entries) : Option Entries :=
  modifyAt? false (fun _ entries =>
    match entries.lookup key with
    | none => some (put entries key (.tables [[]]))
    | some (.tables items) => some (put entries key (.tables (items ++ [[]])))
    | some _ => none) path false entries

def insertUnder? (header path : List String) (key : String) (value : Value) (entries : Entries) :
    Option Entries :=
  modifyAt? false (fun _ entries => insert? path key value entries) header false entries

mutual

def Node.toValue : Node → Value
  | .value v => v
  | .table _ _ entries => .object (entriesToMembers entries)
  | .tables items => .array (itemsToValues items)

def entriesToMembers : List (String × Node) → List (String × Value)
  | [] => []
  | (key, node) :: rest => (key, node.toValue) :: entriesToMembers rest

def itemsToValues : List (List (String × Node)) → List Value
  | [] => []
  | entries :: rest => .object (entriesToMembers entries) :: itemsToValues rest

end

end Gateway.Toml
