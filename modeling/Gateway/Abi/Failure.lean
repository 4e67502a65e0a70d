import Gateway.Config.Section
import Gateway.Id
import Gateway.Server

namespace Gateway.Abi

inductive ErrorCode where
  | ok
  | invalidConfig
  | nullPointer
  | invalidUtf8
  | invalidId
  | invalidArgument
  | serverStart
  | logging
  | internal
  deriving DecidableEq, Repr

namespace ErrorCode

def name : ErrorCode → String
  | ok => "Ok"
  | invalidConfig => "InvalidConfig"
  | nullPointer => "NullPointer"
  | invalidUtf8 => "InvalidUtf8"
  | invalidId => "InvalidId"
  | invalidArgument => "InvalidArgument"
  | serverStart => "ServerStartError"
  | logging => "LoggingError"
  | internal => "Internal"

def code : ErrorCode → Nat
  | ok => 0
  | invalidConfig => 1
  | nullPointer => 2
  | invalidUtf8 => 3
  | invalidId => 4
  | invalidArgument => 5
  | serverStart => 6
  | logging => 7
  | internal => 99

end ErrorCode

inductive Failure where
  | invalidConfig (reason : String)
  | nullPointer (argument : String)
  | invalidUtf8 (argument : String)
  | invalidId (reason : String)
  | invalidArgument (reason : String)
  | serverStart (reason : String)
  | logging (reason : String)
  deriving DecidableEq, Repr

namespace Failure

def message : Failure → String
  | invalidConfig reason => "Invalid configuration: " ++ reason
  | nullPointer argument => "Null pointer provided for: " ++ argument
  | invalidUtf8 argument => "Invalid UTF-8 string: " ++ argument
  | invalidId reason => "Invalid id: " ++ reason
  | invalidArgument reason => "Invalid argument: " ++ reason
  | serverStart reason => "Server start failed: " ++ reason
  | logging reason => "Logging initialization failed: " ++ reason

def code : Failure → ErrorCode
  | invalidConfig _ => .invalidConfig
  | nullPointer _ => .nullPointer
  | invalidUtf8 _ => .invalidUtf8
  | invalidId _ => .invalidId
  | invalidArgument _ => .invalidArgument
  | serverStart _ => .serverStart
  | logging _ => .logging

def ofConfig (e : ConfigError) : Failure := .invalidConfig e.message

def ofServer (e : ServerError) : Failure := .serverStart e.message

def ofId (e : InvalidId) : Failure := .invalidId e.message

def ofLog (e : LogError) : Failure := .logging e.message

end Failure

structure Refusal (α : Type) where
  failure : Failure
  answer : α
  deriving DecidableEq, Repr

def refusing {α β : Type} (answer : α) (result : Except Failure β) : Except (Refusal α) β :=
  result.mapError (⟨·, answer⟩)

end Gateway.Abi
