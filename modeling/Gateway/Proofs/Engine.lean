import Gateway.Engine
import Gateway.Proofs.Connection.Registry
import Gateway.Proofs.Request.Registry

namespace Gateway

def EventQueue.extend (q : EventQueue) (events : List Envelope) : EventQueue :=
  { q with events := q.events ++ events }

namespace EventQueue

@[simp] theorem extend_nil (q : EventQueue) : q.extend [] = q := by simp [extend]

@[simp] theorem extend_extend (q : EventQueue) (first second : List Envelope) :
    (q.extend first).extend second = q.extend (first ++ second) := by simp [extend]

@[simp] theorem events_extend (q : EventQueue) (events : List Envelope) :
    (q.extend events).events = q.events ++ events := rfl

@[simp] theorem maxPayload_extend (q : EventQueue) (events : List Envelope) :
    (q.extend events).maxPayload = q.maxPayload := rfl

theorem extend_eq_self {q : EventQueue} {events : List Envelope} (same : q.extend events = q) :
    events = [] := by
  have listed := congrArg EventQueue.events same
  rwa [EventQueue.events_extend, List.append_right_eq_self] at listed

end EventQueue

namespace Engine

open Http (Headers Method StatusCode Uri)
open WebSocket (Closure Outbound)

/-- An event as this engine queues it: with its payload cut to the limit. -/
def cut (e : Engine) (kind : EventKind) (id : String) (payload : Bytes) : Envelope :=
  .capped kind id payload e.queue.maxPayload

@[simp] theorem queue_measure (e : Engine) (m : Measurement) : (e.measure m).queue = e.queue := rfl

@[simp] theorem connections_measure (e : Engine) (m : Measurement) :
    (e.measure m).connections = e.connections := rfl

@[simp] theorem requests_measure (e : Engine) (m : Measurement) : (e.measure m).requests = e.requests := rfl

@[simp] theorem queue_emit (e : Engine) (kind : EventKind) (id : String) (payload : Bytes) :
    (e.emit kind id payload).queue = e.queue.extend [e.cut kind id payload] := rfl

@[simp] theorem connections_emit (e : Engine) (kind : EventKind) (id : String) (payload : Bytes) :
    (e.emit kind id payload).connections = e.connections := rfl

@[simp] theorem requests_emit (e : Engine) (kind : EventKind) (id : String) (payload : Bytes) :
    (e.emit kind id payload).requests = e.requests := rfl

theorem cut_congr {e f : Engine} (same : f.queue.maxPayload = e.queue.maxPayload) (kind : EventKind)
    (id : String) (payload : Bytes) : f.cut kind id payload = e.cut kind id payload := by
  simp only [cut, same]

def takes (e : Engine) (id : ConnectionId) : Prop :=
  e.connections.accepting = true ∧ e.connections.find? id = none

theorem openSession_eq (e : Engine) (id : ConnectionId) :
    e.openSession id =
      let (line, e) := e.openLine id
      let (accepted, e) := e.register id line
      if accepted then (some line, (e.emit .opened id.text []).measure .connectionOpened)
      else (none, e.modifyLine line Line.hangUp) := by
  rcases asked : (e.openLine id).2.connections.register id (e.openLine id).1 with ⟨accepted, connections⟩
  simp only [openSession, register, ConnectionRegistry.registerThen_eq, asked]
  cases accepted <;> rfl

theorem openSession_taken (e : Engine) (id : ConnectionId) (taken : e.takes id) :
    ∃ line, (e.openSession id).1 = some line ∧
      (e.openSession id).2.queue = e.queue.extend [e.cut .opened id.text []] ∧
      ∀ other, (e.openSession id).2.connections.find? other =
        if other = id then some (.live line) else e.connections.find? other := by
  have accepted : ((e.connections.openLine id).2.register id (e.connections.openLine id).1).1 = true :=
    (ConnectionRegistry.register_accepted _ _ _).mpr taken
  refine ⟨(e.connections.openLine id).1, ?_, ?_, ?_⟩
  · simp [openSession_eq, openLine, register, accepted]
  · simp [openSession_eq, openLine, register, accepted, cut]
  · intro other
    simp only [openSession_eq, openLine, register, accepted, if_true, connections_measure, connections_emit]
    rw [ConnectionRegistry.find?_register _ _ _ accepted,
      ConnectionRegistry.find?_congr (e.connections.entries_openLine id)]

theorem openSession_refused (e : Engine) (id : ConnectionId) (refused : ¬ e.takes id) :
    (e.openSession id).1 = none ∧ (e.openSession id).2.queue = e.queue ∧
      (e.openSession id).2.connections.entries = e.connections.entries := by
  have failed : ((e.connections.openLine id).2.register id (e.connections.openLine id).1).1 = false := by
    rw [Bool.eq_false_iff]
    intro accepted
    have taken := (ConnectionRegistry.register_accepted _ _ _).mp accepted
    exact refused taken
  have same := ConnectionRegistry.register_refused _ _ _ failed
  simp [openSession_eq, openLine, register, failed, same, modifyLine]

theorem requests_openSession (e : Engine) (id : ConnectionId) : (e.openSession id).2.requests = e.requests := by
  cases accepted : ((e.connections.openLine id).2.register id (e.connections.openLine id).1).1 <;>
    simp [openSession_eq, openLine, register, accepted, modifyLine]

theorem distinct_openSession (e : Engine) (id : ConnectionId) (distinct : e.connections.Distinct) :
    (e.openSession id).2.connections.Distinct := by
  have lined : (e.connections.openLine id).2.Distinct := .congr (e.connections.entries_openLine id) distinct
  have registered := lined.register id (e.connections.openLine id).1
  cases accepted : ((e.connections.openLine id).2.register id (e.connections.openLine id).1).1 with
  | true => simpa [openSession_eq, openLine, register, accepted] using registered
  | false =>
    refine .congr ?_ registered
    simp [openSession_eq, openLine, register, accepted, modifyLine]

theorem queue_applyStep (e : Engine) (id : ConnectionId) (line : Nat) (step : SessionStep) :
    (e.applyStep id line step).queue = e.queue.extend (step.message.toList.map (e.cut .message id.text)) := by
  unfold applyStep
  cases step.message with
  | none => exact (EventQueue.extend_nil _).symm
  | some data => rfl

theorem entries_applyStep (e : Engine) (id : ConnectionId) (line : Nat) (step : SessionStep) :
    (e.applyStep id line step).connections.entries = e.connections.entries := by
  unfold applyStep
  cases step.message <;> rfl

theorem requests_applyStep (e : Engine) (id : ConnectionId) (line : Nat) (step : SessionStep) :
    (e.applyStep id line step).requests = e.requests := by
  unfold applyStep
  cases step.message <;> rfl

theorem queue_closeSession (e : Engine) (id : ConnectionId) (line : Nat) (session : Session) :
    (e.closeSession id line session).queue = e.queue.extend
      (if (e.connections.liveLine? id).isSome then [e.cut .closed id.text session.closePayload] else []) := by
  have live := ConnectionRegistry.fade_live (e.connections.modifyLine line Line.hangUp) id
  have same : (e.connections.modifyLine line Line.hangUp).liveLine? id = e.connections.liveLine? id := rfl
  simp only [closeSession, fade, modifyLine, connections_measure, live, same]
  split
  · rfl
  · exact (EventQueue.extend_nil _).symm

theorem connections_closeSession (e : Engine) (id : ConnectionId) (line : Nat) (session : Session) :
    (e.closeSession id line session).connections = ((e.connections.modifyLine line Line.hangUp).fade id).2 := by
  cases live : ((e.connections.modifyLine line Line.hangUp).fade id).1 <;>
    simp [closeSession, fade, modifyLine, live]

theorem requests_closeSession (e : Engine) (id : ConnectionId) (line : Nat) (session : Session) :
    (e.closeSession id line session).requests = e.requests := by
  cases live : ((e.connections.modifyLine line Line.hangUp).fade id).1 <;>
    simp [closeSession, fade, modifyLine, live]

theorem foldl_emit (e : Engine) (kind : EventKind) (payload : Bytes) (ids : List ConnectionId) :
    let after := ids.foldl (fun e id => e.emit kind id.text payload) e
    after.queue = e.queue.extend (ids.map fun id => e.cut kind id.text payload) ∧
      after.connections = e.connections ∧ after.requests = e.requests := by
  induction ids generalizing e with
  | nil => simp
  | cons id rest ih =>
    obtain ⟨queue, connections, requests⟩ := ih (e.emit kind id.text payload)
    refine ⟨?_, connections, requests⟩
    rw [List.foldl_cons, queue, queue_emit, EventQueue.extend_extend]
    rfl

theorem queue_closeConnections (e : Engine) (closure : Closure) :
    (e.closeConnections closure).2.queue = e.queue.extend
      ((e.connections.shutDown closure).1.map fun id => e.cut .closed id.text closure.payload) :=
  (foldl_emit (e.shutDown closure).2 .closed closure.payload _).1

theorem connections_closeConnections (e : Engine) (closure : Closure) :
    (e.closeConnections closure).2.connections = (e.connections.shutDown closure).2 :=
  (foldl_emit (e.shutDown closure).2 .closed closure.payload _).2.1

theorem requests_closeConnections (e : Engine) (closure : Closure) :
    (e.closeConnections closure).2.requests = e.requests :=
  (foldl_emit (e.shutDown closure).2 .closed closure.payload _).2.2

theorem connections_dispatch (e : Engine) (id : RequestId) (method : Method) (uri : Uri) (headers : Headers)
    (route : String) : (e.dispatch id method uri headers route).2.connections = e.connections := by
  cases accepted : (e.requests.openResponse.2.begin
    (.ofHead id method uri headers route e.requests.openResponse.1)).1 <;>
    simp [dispatch, beginRequest, accepted]

theorem dispatch_taken (e : Engine) (id : RequestId) (method : Method) (uri : Uri) (headers : Headers)
    (route : String) (free : e.requests.has id = false) :
    (e.dispatch id method uri headers route).1 = .dispatched e.requests.responses.length ∧
      (e.dispatch id method uri headers route).2.queue = e.queue.extend [e.cut .requestStart id.text []] ∧
      ∀ other, (e.dispatch id method uri headers route).2.requests.has other =
        (e.requests.has other || id == other) := by
  let record := RequestRecord.ofHead id method uri headers route e.requests.openResponse.1
  have unknown : e.requests.openResponse.2.has id = false := free
  have accepted : (e.requests.openResponse.2.begin record).1 = true := by
    rw [RequestRegistry.begin_accepted, Bool.not_eq_true']
    exact unknown
  refine ⟨?_, ?_, fun other => ?_⟩
  · simp only [dispatch, beginRequest, record] at accepted ⊢
    simp only [accepted, if_true]
    rfl
  · simp only [dispatch, beginRequest, record] at accepted ⊢
    simp only [accepted, if_true]
    rfl
  · have begun := e.requests.openResponse.2.has_begin record other
    simp only [dispatch, beginRequest, record] at accepted begun ⊢
    simp only [accepted, if_true, requests_emit, requests_measure]
    exact begun

theorem dispatch_refused (e : Engine) (id : RequestId) (method : Method) (uri : Uri) (headers : Headers)
    (route : String) (used : e.requests.has id = true) :
    (e.dispatch id method uri headers route).1 = .answered .internalServerError "Internal Server Error" ∧
      (e.dispatch id method uri headers route).2.queue = e.queue ∧
      (e.dispatch id method uri headers route).2.requests.records = e.requests.records := by
  let record := RequestRecord.ofHead id method uri headers route e.requests.openResponse.1
  have refused : e.requests.openResponse.2.begin record = (false, e.requests.openResponse.2) :=
    if_pos used
  simp only [record] at refused
  simp [dispatch, beginRequest, refused]

theorem upgrade_quiet (e : Engine) (headers : Headers) :
    (∀ n, (e.upgrade headers).1 ≠ .dispatched n) ∧ (e.upgrade headers).2.queue = e.queue ∧
      (e.upgrade headers).2.connections = e.connections ∧ (e.upgrade headers).2.requests = e.requests := by
  unfold upgrade
  split
  · exact ⟨fun _ => nofun, rfl, rfl, rfl⟩
  · split <;> exact ⟨fun _ => nofun, rfl, rfl, rfl⟩

theorem connections_handleRequest (e : Engine) (id : RequestId) (method : Method) (uri : Uri)
    (headers : Headers) : (e.handleRequest id method uri headers).2.connections = e.connections := by
  unfold handleRequest
  dsimp only
  split
  · rfl
  · split
    · exact (e.upgrade_quiet headers).2.2.1
    · exact connections_dispatch _ _ _ _ _ _

/-- A request either begins, and its identifier was free, or leaves no trace in queue and registry. -/
theorem handleRequest_cases (e : Engine) (id : RequestId) (method : Method) (uri : Uri) (headers : Headers) :
    ((∃ n, (e.handleRequest id method uri headers).1 = .dispatched n) ∧ e.requests.has id = false ∧
      (e.handleRequest id method uri headers).2.queue = e.queue.extend [e.cut .requestStart id.text []] ∧
      ∀ other, (e.handleRequest id method uri headers).2.requests.has other =
        (e.requests.has other || id == other)) ∨
    ((∀ n, (e.handleRequest id method uri headers).1 ≠ .dispatched n) ∧
      (e.handleRequest id method uri headers).2.queue = e.queue ∧
      ∀ other, (e.handleRequest id method uri headers).2.requests.has other = e.requests.has other) := by
  unfold handleRequest
  dsimp only
  split
  · exact .inr ⟨fun _ => nofun, rfl, fun _ => rfl⟩
  · split
    · obtain ⟨answer, queue, _, requests⟩ := e.upgrade_quiet headers
      exact .inr ⟨answer, queue, fun other => by rw [requests]⟩
    · rename_i found _ _
      cases used : e.requests.has id with
      | false =>
        obtain ⟨answer, queue, has⟩ := e.dispatch_taken id method uri headers found.pattern used
        exact .inl ⟨⟨_, answer⟩, rfl, queue, has⟩
      | true =>
        obtain ⟨answer, queue, records⟩ := e.dispatch_refused id method uri headers found.pattern used
        refine .inr ⟨fun n => ?_, queue, RequestRegistry.has_congr records⟩
        rw [answer]
        nofun

theorem queue_pollBody (e : Engine) (id : RequestId) (n : Nat) :
    (e.pollBody id n).2.queue = e.queue.extend ((e.requests.pollBody n).2.1.toList.map fun written =>
      e.cut .writable id.text (Text.bytes (Text.Decimal.text written))) := by
  rcases polled : e.requests.pollBody n with ⟨poll, drained, requests⟩
  cases drained with
  | none => simp [pollBody, polled]
  | some written => simp [pollBody, polled, cut]

theorem connections_pollBody (e : Engine) (id : RequestId) (n : Nat) :
    (e.pollBody id n).2.connections = e.connections := by
  rcases polled : e.requests.pollBody n with ⟨poll, drained, requests⟩
  cases drained <;> simp [pollBody, polled]

theorem requests_pollBody (e : Engine) (id : RequestId) (n : Nat) :
    (e.pollBody id n).2.requests = (e.requests.pollBody n).2.2 := by
  rcases polled : e.requests.pollBody n with ⟨poll, drained, requests⟩
  cases drained <;> simp [pollBody, polled]

theorem connections_receiveBody (e : Engine) (id : RequestId) (data : Bytes) :
    (e.receiveBody id data).connections = e.connections := by
  unfold receiveBody
  split <;> rfl

theorem requests_receiveBody (e : Engine) (id : RequestId) (data : Bytes) :
    (e.receiveBody id data).requests = e.requests := by
  unfold receiveBody
  split <;> rfl

theorem connections_receiveBodyEnd (e : Engine) (id : RequestId) :
    (e.receiveBodyEnd id).connections = e.connections := by
  unfold receiveBodyEnd
  split <;> rfl

theorem requests_receiveBodyEnd (e : Engine) (id : RequestId) :
    (e.receiveBodyEnd id).requests = e.requests := by
  unfold receiveBodyEnd
  split <;> rfl

theorem connections_abandonRequest (e : Engine) (id : RequestId) :
    (e.abandonRequest id).connections = e.connections := by
  unfold abandonRequest
  dsimp only
  split <;> rfl

theorem queue_receiveBody (e : Engine) (id : RequestId) (data : Bytes) :
    (e.receiveBody id data).queue = e.queue.extend
      (if data ≠ [] ∧ e.requests.has id = true then [e.cut .requestData id.text data] else []) := by
  unfold receiveBody
  split <;> rename_i given
  · rw [queue_emit, if_pos (by simpa using given)]
  · rw [if_neg (by simpa using given), EventQueue.extend_nil]

theorem queue_receiveBodyEnd (e : Engine) (id : RequestId) :
    (e.receiveBodyEnd id).queue =
      e.queue.extend (if e.requests.has id = true then [e.cut .requestEnd id.text []] else []) := by
  unfold receiveBodyEnd
  split
  · rfl
  · exact (EventQueue.extend_nil _).symm

theorem queue_abandonRequest (e : Engine) (id : RequestId) :
    (e.abandonRequest id).queue =
      e.queue.extend (if e.requests.has id = true then [e.cut .requestAbort id.text []] else []) := by
  simp only [abandonRequest, RequestRegistry.abort_known]
  split
  · rfl
  · exact (EventQueue.extend_nil _).symm

theorem requests_abandonRequest (e : Engine) (id : RequestId) :
    (e.abandonRequest id).requests = (e.requests.abort id).2 := by
  unfold abandonRequest
  dsimp only
  split <;> rfl

/-- A later state of an engine: its events have the same limit, and no connection was entered twice. -/
structure Keeps (e f : Engine) : Prop where
  limit : f.queue.maxPayload = e.queue.maxPayload
  distinct : e.connections.Distinct → f.connections.Distinct

namespace Keeps

variable {e f g : Engine}

theorem refl (e : Engine) : e.Keeps e := ⟨rfl, fun distinct => distinct⟩

theorem trans (first : e.Keeps f) (second : f.Keeps g) : e.Keeps g :=
  ⟨second.limit.trans first.limit, fun distinct => second.distinct (first.distinct distinct)⟩

theorem of_entries {events : List Envelope} (queue : f.queue = e.queue.extend events)
    (entries : f.connections.entries = e.connections.entries) : e.Keeps f := by
  refine ⟨?_, .congr entries⟩
  rw [queue, EventQueue.maxPayload_extend]

theorem of_quiet (queue : f.queue = e.queue) (entries : f.connections.entries = e.connections.entries) :
    e.Keeps f :=
  of_entries (queue.trans (EventQueue.extend_nil _).symm) entries

end Keeps

theorem keeps_openSession (e : Engine) (id : ConnectionId) : e.Keeps (e.openSession id).2 := by
  refine ⟨?_, e.distinct_openSession id⟩
  by_cases taken : e.takes id
  · obtain ⟨_, _, queue, _⟩ := e.openSession_taken id taken
    rw [queue, EventQueue.maxPayload_extend]
  · obtain ⟨_, queue, _⟩ := e.openSession_refused id taken
    rw [queue]

theorem keeps_applyStep (e : Engine) (id : ConnectionId) (line : Nat) (step : SessionStep) :
    e.Keeps (e.applyStep id line step) :=
  .of_entries (e.queue_applyStep id line step) (e.entries_applyStep id line step)

theorem keeps_closeSession (e : Engine) (id : ConnectionId) (line : Nat) (session : Session) :
    e.Keeps (e.closeSession id line session) := by
  constructor
  · rw [queue_closeSession, EventQueue.maxPayload_extend]
  · intro distinct
    rw [connections_closeSession]
    exact ConnectionRegistry.Distinct.fade (.congr (ConnectionRegistry.entries_modifyLine _ _ _) distinct) id

theorem keeps_closeConnections (e : Engine) (closure : Closure) : e.Keeps (e.closeConnections closure).2 := by
  constructor
  · rw [queue_closeConnections, EventQueue.maxPayload_extend]
  · intro distinct
    rw [connections_closeConnections]
    exact distinct.shutDown closure

theorem keeps_handleRequest (e : Engine) (id : RequestId) (method : Method) (uri : Uri) (headers : Headers) :
    e.Keeps (e.handleRequest id method uri headers).2 := by
  have entries := congrArg (·.entries) (e.connections_handleRequest id method uri headers)
  rcases e.handleRequest_cases id method uri headers with ⟨_, _, queue, _⟩ | ⟨_, queue, _⟩
  · exact .of_entries queue entries
  · exact .of_quiet queue entries

end Engine

end Gateway
