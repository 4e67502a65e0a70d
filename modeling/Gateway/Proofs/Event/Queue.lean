import Gateway.Event.Queue

namespace Gateway

structure LongestFront (limit : Nat) (bytes front : Bytes) : Prop where
  begins : front <+: bytes
  within : front.length ≤ limit
  longest : ∀ other, other <+: bytes → other.length ≤ limit → other <+: front

theorem longestFront_take (limit : Nat) (bytes : Bytes) : LongestFront limit bytes (bytes.take limit) := by
  refine ⟨List.take_prefix limit bytes, List.length_take_le limit bytes, fun other begins within => ?_⟩
  rw [List.prefix_iff_eq_take.mp begins]
  exact List.take_prefix_take_left within

/-- An event as it is to be emitted: with all of its payload that the limit allows, and the word whether that
    is less than all. -/
structure Envelope.Carries (e : Envelope) (limit : Nat) (kind : EventKind) (id : String) (payload : Bytes) : Prop where
  kind_eq : e.kind = kind
  id_eq : e.id = id
  front : LongestFront limit payload e.payload
  truncated_iff : e.truncated = true ↔ limit < payload.length

theorem Envelope.carries_capped (kind : EventKind) (id : String) (payload : Bytes) (limit : Nat) :
    (capped kind id payload limit).Carries limit kind id payload :=
  ⟨rfl, rfl, longestFront_take limit payload, decide_eq_true_iff⟩

inductive QueueCall where
  | push (e : Envelope)
  | emit (kind : EventKind) (id : String) (payload : Bytes)
  | pop
  | peek
  | drain (count : Nat)
  | clear

inductive QueueAnswer where
  | done
  | cut (truncated : Bool)
  | event (e : Envelope)
  | front (e : Option Envelope)
  | events (taken : List Envelope)
  | dropped (count : Nat)

def QueueCall.added (limit : Nat) : QueueCall → List Envelope
  | push e => [e]
  | emit kind id payload => [.capped kind id payload limit]
  | _ => []

namespace EventQueue

def call (q : EventQueue) : QueueCall → QueueAnswer × EventQueue
  | .push e => (.done, q.push e)
  | .emit kind id payload => (.cut (q.emit kind id payload).1, (q.emit kind id payload).2)
  | .pop => (.event q.pop.1, q.pop.2)
  | .peek => (.front q.peek?, q)
  | .drain count => (.events (q.drain count).1, (q.drain count).2)
  | .clear => (.dropped q.clear.1, q.clear.2)

/-- The events that a call takes out: those that it answers with, and those that it drops. The event that
    stands for an empty queue was never in it. -/
def removed (q : EventQueue) (call : QueueCall) : List Envelope :=
  match call, (q.call call).1 with
  | .pop, .event e => if q.isEmpty then [] else [e]
  | .drain _, .events taken => taken
  | .clear, _ => q.events
  | _, _ => []

def run (q : EventQueue) (calls : List QueueCall) : EventQueue := calls.foldl (fun q call => (q.call call).2) q

def removedAlong (q : EventQueue) : List QueueCall → List Envelope
  | [] => []
  | call :: calls => q.removed call ++ removedAlong (q.call call).2 calls

def pops (q : EventQueue) : Nat → List Envelope × EventQueue
  | 0 => ([], q)
  | count + 1 => (q.pop.1 :: (q.pop.2.pops count).1, (q.pop.2.pops count).2)

theorem pop_nil {q : EventQueue} (empty : q.events = []) : q.pop = (.nothing, q) := by
  rw [pop, empty]

theorem pop_cons {q : EventQueue} {e : Envelope} {rest : List Envelope} (events : q.events = e :: rest) :
    q.pop = (e, { q with events := rest }) := by
  rw [pop, events]

theorem maxPayload_call (q : EventQueue) (call : QueueCall) : (q.call call).2.maxPayload = q.maxPayload := by
  cases call with
  | pop => cases events : q.events <;> simp [EventQueue.call, pop, events]
  | _ => rfl

theorem events_call (q : EventQueue) (call : QueueCall) :
    q.events ++ call.added q.maxPayload = q.removed call ++ (q.call call).2.events := by
  cases call with
  | push | emit => rfl
  | peek => exact List.append_nil _
  | pop =>
    cases events : q.events with
    | nil => simp [removed, EventQueue.call, QueueCall.added, pop_nil events, isEmpty, events]
    | cons e rest => simp [removed, EventQueue.call, QueueCall.added, pop_cons events, isEmpty, events]
  | drain count => exact (List.append_nil _).trans (List.take_append_drop count q.events).symm
  | clear => rfl

theorem maxPayload_run (q : EventQueue) (calls : List QueueCall) : (q.run calls).maxPayload = q.maxPayload := by
  induction calls generalizing q with
  | nil => rfl
  | cons call calls ih => exact (ih (q.call call).2).trans (q.maxPayload_call call)

theorem events_run (q : EventQueue) (calls : List QueueCall) :
    q.events ++ calls.flatMap (QueueCall.added q.maxPayload) = q.removedAlong calls ++ (q.run calls).events := by
  induction calls generalizing q with
  | nil => exact List.append_nil _
  | cons call calls ih =>
    have later := ih (q.call call).2
    rw [maxPayload_call] at later
    calc q.events ++ (call.added q.maxPayload ++ calls.flatMap (QueueCall.added q.maxPayload))
        = q.removed call ++ ((q.call call).2.events ++ calls.flatMap (QueueCall.added q.maxPayload)) := by
          rw [← List.append_assoc, events_call, List.append_assoc]
      _ = q.removed call ++ ((q.call call).2.removedAlong calls ++ ((q.call call).2.run calls).events) := by
          rw [later]
      _ = q.removedAlong (call :: calls) ++ (q.run (call :: calls)).events := (List.append_assoc _ _ _).symm

theorem pops_eq_drain (q : EventQueue) {count : Nat} (enough : count ≤ q.length) : q.pops count = q.drain count := by
  induction count generalizing q with
  | zero => rfl
  | succ count ih =>
    cases events : q.events with
    | nil =>
      rw [length, events] at enough
      cases enough
    | cons e rest =>
      have others := ih { q with events := rest } (by simpa [length, events] using enough)
      simp only [pops, pop_cons events, others, drain, events, List.take_succ_cons, List.drop_succ_cons]

theorem drain_eq_pops (q : EventQueue) (count : Nat) : q.drain count = q.pops (min count q.length) := by
  rw [pops_eq_drain q (Nat.min_le_right _ _), drain, drain, length, List.take_eq_take_min,
    List.drop_eq_drop_min]

/-- For every limit and every run of calls: the events that were ever added are, in order, those that were
    taken out or dropped and then those in the queue. To drain it is to pop as often as there are events to
    take. A look at the front changes nothing, nor does a pop of an empty queue. What is emitted is added with
    as much of its payload as the limit allows, and whether that is all is told and answered; what is pushed is
    added as it is. -/
theorem added_eq_removed_append (limit : Nat) (calls : List QueueCall) :
    let q := (empty limit).run calls
    calls.flatMap (QueueCall.added limit) = (empty limit).removedAlong calls ++ q.events ∧
    (∀ count, q.call (.drain count) =
      (.events (q.pops (min count q.length)).1, (q.pops (min count q.length)).2)) ∧
    q.call .peek = (.front q.events.head?, q) ∧
    (q.events = [] → q.call .pop = (.event .nothing, q)) ∧
    (∀ kind id payload, ∃ e : Envelope, e.Carries limit kind id payload ∧
      q.call (.emit kind id payload) = (.cut e.truncated, { q with events := q.events ++ [e] }) ∧
      (QueueCall.emit kind id payload).added limit = [e]) ∧
    ∀ e, q.call (.push e) = (.done, { q with events := q.events ++ [e] }) ∧ (QueueCall.push e).added limit = [e] := by
  intro q
  refine ⟨(empty limit).events_run calls, fun count => ?_, rfl, fun none => ?_, fun kind id payload => ?_,
    fun e => ⟨rfl, rfl⟩⟩
  · rw [← drain_eq_pops]
    rfl
  · rw [call, pop_nil none]
  · have same : q.maxPayload = limit := (empty limit).maxPayload_run calls
    refine ⟨.capped kind id payload q.maxPayload, ?_, rfl, ?_⟩
    · rw [same]
      exact Envelope.carries_capped kind id payload limit
    · rw [same]
      rfl

def mixed : List QueueCall :=
  [.pop, .emit .message "a" [1, 2, 3], .push .nothing, .emit .closed "a" [], .drain 1, .pop, .clear]

theorem added_eq_removed_append_mixed :
    let q := (empty 2).run mixed
    q.events = [] ∧ q.call .pop = (.event .nothing, q) ∧
    (empty 2).removedAlong mixed = [⟨.message, "a", [1, 2], true⟩, .nothing, ⟨.closed, "a", [], false⟩] := by
  intro q
  obtain ⟨history, _, _, pop, _⟩ := added_eq_removed_append 2 mixed
  have none : q.events = [] := by decide
  have parts : mixed.flatMap (QueueCall.added 2) = (empty 2).removedAlong mixed ++ q.events := history
  rw [none, List.append_nil] at parts
  exact ⟨none, pop none, parts ▸ (by decide)⟩

end EventQueue

end Gateway
