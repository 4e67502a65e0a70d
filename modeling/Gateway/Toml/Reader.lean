import Gateway.Toml.Lexical
import Gateway.Toml.Tree

namespace Gateway.Toml

open Json (Value)

mutual

def value? : Nat → Nat → List Char → Option (Value × List Char)
  | 0, _, _ => none
  | fuel + 1, room, s =>
    match room, s with
    | _, '\x22' :: _ | _, '\x27' :: _ =>
      (string? s).map fun (s, rest) => (.string (String.ofList s), rest)
    | room + 1, '[' :: rest => (items? fuel room rest).map fun (items, rest) => (.array items, rest)
    | room + 1, '\x7b' :: rest =>
      match skipBlanks rest with
      | '\x7d' :: rest => some (.object [], rest)
      | _ => (members? fuel room [] rest).map fun (entries, rest) =>
          (.object (entriesToMembers entries), rest)
    | _, _ =>
      let (word, rest) := nextWord s
      (word? word).map fun v => (v, rest)

def items? : Nat → Nat → List Char → Option (List Value × List Char)
  | 0, _, _ => none
  | fuel + 1, room, s =>
    match skipSpace (s.length + 1) s with
    | ']' :: rest => some ([], rest)
    | s =>
      match value? fuel room s with
      | none => none
      | some (item, rest) =>
        match skipSpace (rest.length + 1) rest with
        | ']' :: rest => some ([item], rest)
        | ',' :: rest => (items? fuel room rest).map fun (items, rest) => (item :: items, rest)
        | _ => none

def members? : Nat → Nat → Entries → List Char → Option (Entries × List Char)
  | 0, _, _, _ => none
  | fuel + 1, room, entries, s =>
    match assignment? fuel room s with
    | none => none
    | some (path, key, value, rest) =>
      match insert? path key value entries with
      | none => none
      | some entries =>
        match skipBlanks rest with
        | '\x7d' :: rest => some (entries, rest)
        | ',' :: rest => members? fuel room entries rest
        | _ => none

def assignment? : Nat → Nat → List Char → Option (List String × String × Value × List Char)
  | 0, _, _ => none
  | fuel + 1, room, s =>
    match key? s with
    | some (parts, '=' :: rest) =>
      match splitKey? parts, value? fuel room (skipBlanks rest) with
      | some (path, key), some (value, rest) => some (path, key, value, rest)
      | _, _ => none
    | _ => none

end

/-- A document that is being read: its tables, and the path of the last header. -/
structure Draft where
  header : List String
  entries : Entries

def line? (draft : Draft) (s : List Char) : Option (Draft × List Char) :=
  match s with
  | '[' :: '[' :: rest =>
    match key? rest with
    | some (parts, ']' :: ']' :: rest) =>
      match splitKey? parts with
      | some (path, key) =>
        (openItem? path key draft.entries).map fun entries => (⟨parts, entries⟩, rest)
      | none => none
    | _ => none
  | '[' :: rest =>
    match key? rest with
    | some (parts, ']' :: rest) =>
      match splitKey? parts with
      | some (path, key) =>
        (openTable? path key draft.entries).map fun entries => (⟨parts, entries⟩, rest)
      | none => none
    | _ => none
  | s =>
    match assignment? (3 * s.length + 3) maxDepth s with
    | some (path, key, value, rest) =>
      (insertUnder? draft.header path key value draft.entries).map fun entries =>
        ({ draft with entries }, rest)
    | none => none

def lines? : Nat → Draft → List Char → Option Draft
  | 0, _, _ => none
  | fuel + 1, draft, s =>
    match skipSpace (s.length + 1) s with
    | [] => some draft
    | s =>
      match line? draft s with
      | none => none
      | some (draft, rest) =>
        match endOfLine? rest with
        | some rest => lines? fuel draft rest
        | none => none

def read? (text : String) : Option Value :=
  let s := match text.toList with
    | c :: rest => if c.toNat = 0xFEFF then rest else c :: rest
    | [] => []
  match lines? (s.length + 2) ⟨[], []⟩ s with
  | some draft => some (.object (entriesToMembers draft.entries))
  | none => none

end Gateway.Toml
