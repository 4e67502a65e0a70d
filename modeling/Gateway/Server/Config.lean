import Gateway.Connection.Line
import Gateway.Connection.Session
import Gateway.Named

namespace Gateway

inductive CompressionMode where
  | disabled
  | sharedCompressor
  | dedicatedCompressor
  deriving DecidableEq, Repr

namespace CompressionMode

def all : List CompressionMode := [disabled, sharedCompressor, dedicatedCompressor]

def name : CompressionMode → String
  | disabled => "disabled"
  | sharedCompressor => "shared_compressor"
  | dedicatedCompressor => "dedicated_compressor"

def normalize (s : String) : String :=
  String.ofList (s.toList.map fun c => if c = '-' then '_' else Text.Ascii.lowerChar c)

/-- Reads a mode by its name, or by the first word of it; the error is the text that was compared. -/
def read (s : String) : Except String CompressionMode :=
  let name := normalize s
  if name = "disabled" ∨ name = "none" then .ok disabled
  else if name = "shared_compressor" ∨ name = "shared" then .ok sharedCompressor
  else if name = "dedicated_compressor" ∨ name = "dedicated" then .ok dedicatedCompressor
  else .error name

def unknownMessage (name : String) : String := "unknown compression mode '" ++ name ++ "'"

end CompressionMode

instance : Named CompressionMode where
  all := CompressionMode.all
  name := CompressionMode.name
  mem_all := by intro a; cases a <;> decide
  name_injective := by intro a b; cases a <;> cases b <;> decide

structure ServerConfig where
  host : String := "0.0.0.0"
  maxPayloadSize : Nat := 16 * 1024 * 1024
  maxBackpressure : Nat := 64 * 1024
  idleTimeoutSecs : Nat := 120
  maxLifetimeMinutes : Nat := 0
  sendPingsAutomatically : Bool := true
  closeOnBackpressureLimit : Bool := false
  resetIdleTimeoutOnSend : Bool := true
  compression : CompressionMode := .sharedCompressor
  echo : Bool := false
  shutdownTimeoutMs : Nat := 5000
  deriving DecidableEq, Repr

namespace ServerConfig

/-- A product of 64 bits: of one that needs more the rest is lost, or it fails where sums are checked. -/
def product? (isChecked : Bool) (a b : Nat) : Option Nat :=
  if isChecked && 1 <<< 64 ≤ a * b then none else some (a * b % (1 <<< 64))

/-- How the sessions of the server behave; a limit of zero is none. -/
def session? (c : ServerConfig) (isChecked : Bool) : Option SessionConfig := do
  let lifetime ← if 0 < c.maxLifetimeMinutes then (product? isChecked c.maxLifetimeMinutes 60).map some else some none
  return {
    idleTimeout := if 0 < c.idleTimeoutSecs then some (c.idleTimeoutSecs * 1000) else none
    sendPings := c.sendPingsAutomatically
    maxLifetime := lifetime.map (· * 1000)
    resetIdleOnSend := c.resetIdleTimeoutOnSend
    echo := c.echo }

def backpressure (c : ServerConfig) : BackpressurePolicy :=
  ⟨c.maxBackpressure, c.closeOnBackpressureLimit⟩

end ServerConfig

/-- The number of threads that the engine runs on, what they are called, and their stack. -/
structure RuntimeConfig where
  workerThreads : Nat := 1
  threadStackSize : Nat := 2 * 1024 * 1024
  threadName : String := "pylon-engine"
  deriving DecidableEq, Repr

def RuntimeConfig.workers (c : RuntimeConfig) : Nat := max c.workerThreads 1

end Gateway
