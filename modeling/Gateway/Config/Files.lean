import Gateway.Route
import Gateway.Text.Utf8

namespace Gateway

inductive FileNode where
  | file (content : Bytes)
  | directory
  deriving DecidableEq, Repr

abbrev Directory := List (String × FileNode)

namespace Directory

def components (path : String) : List String :=
  ((Route.splitOn '/' path.toList).map String.ofList).filter fun name => name != "" && name != "."

def join (names : List String) : String := String.intercalate "/" names

/-- What names lead to among some files, from a directory that is given by its path, or from outside
    if it is `none`. The directory above the topmost one is `above`. -/
def walk? (files : Directory) (above : Option (List String)) :
    Option (List String) → List String → Option FileNode
  | _, [] => some .directory
  | none, name :: rest => if name = ".." then walk? files above none rest else none
  | some here, name :: rest =>
    if name = ".." then walk? files above (if here.isEmpty then above else some here.dropLast) rest
    else
      let path := here ++ [name]
      match files.lookup (join path) with
      | some .directory => walk? files above (some path) rest
      | some (.file content) => if rest.isEmpty then some (.file content) else none
      | none =>
        if files.any fun file => (join path ++ "/").isPrefixOf file.1 then
          walk? files above (some path) rest
        else none

def fileName? (path : String) : Option String :=
  match (components path).getLast? with
  | some name => if name = ".." then none else some name
  | none => none

def extension? (name : String) : Option String :=
  let reversed := name.toList.reverse
  let tail := reversed.takeWhile (· ≠ '.')
  match reversed.dropWhile (· ≠ '.') with
  | '.' :: _ :: _ => some (String.ofList tail.reverse)
  | _ => none

end Directory

/-- What the paths of a process lead to. -/
structure FileSystem where
  here : Directory
  root : Directory
  deriving DecidableEq, Repr

namespace FileSystem

def maxPath : Nat := 4095

/-- What a path leads to. One that starts with a separator leads there from the root, which has no
    directory above it. A path that ends in a separator leads to a directory only. -/
def find? (files : FileSystem) (path : String) : Option FileNode :=
  if path.isEmpty ∨ maxPath < path.utf8ByteSize then none
  else
    let names := Directory.components path
    let node? :=
      if path.startsWith "/" then files.root.walk? (some []) (some []) names
      else files.here.walk? none (some []) names
    match node? with
    | some (.file content) =>
      if path.toList.getLast? = some '/' ∨ (Route.splitOn '/' path.toList).getLast? = some ['.'] then
        none
      else some (.file content)
    | node? => node?

end FileSystem

end Gateway
