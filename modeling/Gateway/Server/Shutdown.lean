import Gateway.Named

namespace Gateway

inductive WaitPoll where
  | pending
  | ready
  | done
  deriving DecidableEq, Repr

instance : Named WaitPoll where
  all := [.pending, .ready, .done]
  name
    | .pending => "pending"
    | .ready => "ready"
    | .done => "done"
  mem_all := by intro a; cases a <;> decide
  name_injective := by intro a b; cases a <;> cases b <;> decide

/-- A wait. All calls to the waiters of its kind are counted; it has been called if the count has
    grown since it began to wait. -/
structure Wait where
  began : Option Nat
  since : Option Nat
  isOver : Bool
  deriving DecidableEq, Repr

namespace Wait

def start : Wait := ⟨none, none, false⟩

def isCalled (w : Wait) (calls : Nat) : Bool :=
  match w.since with
  | some since => since < calls
  | none => true

/-- Polls a wait: unless nobody called it, it looks whether what it waits for is there, and else
    waits for the next call. -/
def poll (w : Wait) (calls : Nat) (isThere : Bool) : WaitPoll × Wait :=
  if w.isOver then (.done, w)
  else if !w.isCalled calls then (.pending, w)
  else if isThere then (.ready, { w with isOver := true })
  else (.pending, { w with began := some (w.began.getD calls), since := some calls })

def isWoken (w : Wait) (calls : Nat) : Bool :=
  match w.began with
  | some began => began < calls
  | none => false

end Wait

/-- A signal that is given once and stays given. -/
structure ShutdownSignal where
  isGiven : Bool
  calls : Nat
  deriving DecidableEq, Repr

namespace ShutdownSignal

def start : ShutdownSignal := ⟨false, 0⟩

def trigger (s : ShutdownSignal) : ShutdownSignal :=
  if s.isGiven then s else ⟨true, s.calls + 1⟩

def poll (s : ShutdownSignal) (w : Wait) : WaitPoll × Wait := w.poll s.calls s.isGiven

end ShutdownSignal

structure ConnectionTracker where
  active : Nat
  calls : Nat
  deriving DecidableEq, Repr

namespace ConnectionTracker

def start : ConnectionTracker := ⟨0, 0⟩

def acquire (t : ConnectionTracker) : ConnectionTracker := { t with active := t.active + 1 }

def release (t : ConnectionTracker) : ConnectionTracker :=
  ⟨t.active - 1, if t.active = 1 then t.calls + 1 else t.calls⟩

def poll (t : ConnectionTracker) (w : Wait) : WaitPoll × Wait := w.poll t.calls (t.active = 0)

end ConnectionTracker

end Gateway
