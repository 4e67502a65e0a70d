import Gateway.Verb

namespace Gateway

namespace Route

def splitOn (separator : Char) : List Char → List (List Char)
  | [] => [[]]
  | c :: rest =>
    if c = separator then [] :: splitOn separator rest
    else
      match splitOn separator rest with
      | [] => [[c]]
      | piece :: pieces => (c :: piece) :: pieces

def pieces (path : String) : List (List Char) :=
  (splitOn '/' path.toList).filter (!·.isEmpty)

inductive Segment where
  | fixed (text : String)
  /-- Any one piece, which is captured under a name. -/
  | param (name : String)
  | rest
  deriving DecidableEq, Repr

def Segment.read (piece : List Char) (isLast : Bool) : Segment :=
  match piece with
  | ':' :: name => .param (String.ofList name)
  | '\x7b' :: inside =>
    if inside.getLast? = some '\x7d' then .param (String.ofList inside.dropLast)
    else .fixed (String.ofList piece)
  | ['*'] => if isLast then .rest else .fixed "*"
  | piece => .fixed (String.ofList piece)

def readSegments : List (List Char) → List Segment
  | [] => []
  | piece :: more => Segment.read piece more.isEmpty :: readSegments more

def matchSegments : List Segment → List (List Char) → Option (List (String × String))
  | [], [] => some []
  | [], _ :: _ => none
  | .rest :: _, _ => some []
  | .fixed _ :: _, [] => none
  | .fixed text :: segments, piece :: more =>
    if piece = text.toList then matchSegments segments more else none
  | .param _ :: _, [] => none
  | .param name :: segments, piece :: more =>
    match matchSegments segments more with
    | some params => some ((name, String.ofList piece) :: params)
    | none => none

end Route

structure RoutePattern where
  text : String
  segments : List Route.Segment
  deriving DecidableEq, Repr

namespace RoutePattern

def read (text : String) : RoutePattern := ⟨text, Route.readSegments (Route.pieces text)⟩

def match? (pattern : RoutePattern) (path : String) : Option (List (String × String)) :=
  Route.matchSegments pattern.segments (Route.pieces path)

end RoutePattern

/-- A route that answers a request, with what it captures. -/
structure RouteMatch where
  verb : Verb
  pattern : String
  params : List (String × String)
  deriving DecidableEq, Repr

/-- The routes of a server, in the order of their registration. -/
structure RouteTable where
  routes : List (Verb × RoutePattern)
  deriving DecidableEq, Repr

namespace RouteTable

def empty : RouteTable := ⟨[]⟩

def add (table : RouteTable) (verb : Verb) (pattern : String) : RouteTable :=
  ⟨table.routes ++ [(verb, RoutePattern.read pattern)]⟩

def find? (table : RouteTable) (method : Http.Method) (path : String) (websocket : Bool) :
    Option RouteMatch :=
  table.routes.findSome? fun (verb, pattern) =>
    if verb.accepts method websocket then
      match pattern.match? path with
      | some params => some ⟨verb, pattern.text, params⟩
      | none => none
    else none

def length (table : RouteTable) : Nat := table.routes.length

def isEmpty (table : RouteTable) : Bool := table.routes.isEmpty

end RouteTable

end Gateway
