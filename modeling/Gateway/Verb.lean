import Gateway.Http.Method
import Gateway.Named
import Gateway.Text.Ascii

namespace Gateway

inductive Verb where
  | get | post | put | patch | delete | options | head
  /-- Any method, as long as no WebSocket connection is wanted. -/
  | any
  | ws
  deriving DecidableEq, Repr

namespace Verb

def all : List Verb := [get, post, put, patch, delete, options, head, any, ws]

def name : Verb → String
  | get => "GET"
  | post => "POST"
  | put => "PUT"
  | patch => "PATCH"
  | delete => "DELETE"
  | options => "OPTIONS"
  | head => "HEAD"
  | any => "ANY"
  | ws => "WS"

def code : Verb → Nat
  | get => 0
  | post => 1
  | put => 2
  | patch => 3
  | delete => 4
  | options => 5
  | head => 6
  | any => 7
  | ws => 8

inductive Unknown where
  | name (s : String)
  | code (n : Int)
  deriving DecidableEq, Repr

def Unknown.message : Unknown → String
  | .name s => "unknown verb '" ++ s ++ "'"
  | .code n => "unknown verb discriminant " ++ toString n

def read (s : String) : Except Unknown Verb :=
  match all.find? fun verb => Text.Ascii.sameText verb.name s with
  | some verb => .ok verb
  | none => .error (.name s)

def ofCode (n : Int) : Except Unknown Verb :=
  match all.find? fun verb => verb.code = n with
  | some verb => .ok verb
  | none => .error (.code n)

def methods : List Verb := [get, post, put, patch, delete, options, head]

def ofMethod? (method : Http.Method) : Option Verb := methods.find? (·.name == method.name)

def accepts (verb : Verb) (method : Http.Method) (websocket : Bool) : Bool :=
  match verb with
  | ws => websocket
  | any => !websocket
  | verb => !websocket && ofMethod? method == some verb

end Verb

instance : Named Verb where
  all := Verb.all
  name := Verb.name
  mem_all := by intro a; cases a <;> decide
  name_injective := by intro a b; cases a <;> cases b <;> decide

end Gateway
