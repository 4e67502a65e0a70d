import Gateway.Server.Shutdown

namespace Gateway

inductive WaitTarget where
  | signal
  | idle
  deriving DecidableEq, Repr

structure Drain where
  signal : ShutdownSignal
  tracker : ConnectionTracker
  waits : List (String × WaitTarget × Wait)
  /-- The keys of the tokens, each for a connection that is served. -/
  tokens : List String
  deriving DecidableEq, Repr

namespace Drain

def start : Drain := ⟨.start, .start, [], []⟩

def trigger (d : Drain) : Bool × Drain :=
  let signal := d.signal.trigger
  (signal.isGiven, { d with signal })

def calls (d : Drain) : WaitTarget → Nat
  | .signal => d.signal.calls
  | .idle => d.tracker.calls

def pollWait (d : Drain) (key : String) (target : WaitTarget) (w : Wait) : WaitPoll × Drain :=
  let (answer, w) := match target with
    | .signal => d.signal.poll w
    | .idle => d.tracker.poll w
  (answer, { d with waits := (key, target, w) :: d.waits.filter (·.1 != key) })

def await (d : Drain) (key : String) (target : WaitTarget) : WaitPoll × Drain :=
  d.pollWait key target .start

def poll (d : Drain) (key : String) : Option WaitPoll × Drain :=
  match d.waits.lookup key with
  | none => (none, d)
  | some (target, w) =>
    let (answer, d) := d.pollWait key target w
    (some answer, d)

def isWoken? (d : Drain) (key : String) : Option Bool :=
  (d.waits.lookup key).map fun (target, w) => w.isWoken (d.calls target)

def acquire (d : Drain) (key : String) : Nat × Drain :=
  let tracker := d.tracker.acquire
  let d := if d.tokens.contains key then { d with tracker := tracker.release }
    else { d with tracker, tokens := key :: d.tokens }
  (d.tracker.active, d)

def release (d : Drain) (key : String) : Nat × Drain :=
  let d := if d.tokens.contains key then
      { d with tracker := d.tracker.release, tokens := d.tokens.erase key }
    else d
  (d.tracker.active, d)

end Drain

end Gateway
