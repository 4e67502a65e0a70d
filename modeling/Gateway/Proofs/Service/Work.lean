import Gateway.Proofs.Connection.LifeCycle
import Gateway.Proofs.Engine
import Gateway.Proofs.Request.InFlight
import Gateway.Proofs.Service.Moved

namespace Gateway

open Http (Headers Method StatusCode Uri)
open WebSocket (Closure Outbound)

def EventKind.Ordinary (kind : EventKind) : Prop :=
  kind ≠ .listening ∧ kind ≠ .shutDown ∧ kind ≠ .opened ∧ kind ≠ .closed

namespace Engine

variable {e f g : Engine} {events : List Envelope}

structure Works (e f : Engine) (events : List Envelope) : Prop where
  connections : ∃ calls, (∀ call ∈ calls, call ≠ .reopen) ∧ f.connections = e.connections.run calls
  requests : ∃ calls, f.requests = e.requests.run calls
  silent : ∀ x ∈ events, x.kind ≠ .listening ∧ x.kind ≠ .shutDown
  shut : e.connections.Distinct → e.connections.Shut → ∀ x ∈ events, x.kind ≠ .opened ∧ x.kind ≠ .closed

structure Yields (e f : Engine) (events : List Envelope) : Prop extends e.Works f events where
  queue : f.queue = e.queue.extend events

theorem Works.distinct (works : e.Works f events) (distinct : e.connections.Distinct) : f.connections.Distinct := by
  obtain ⟨calls, _, after⟩ := works.connections
  rw [after]
  exact distinct.run calls

theorem Works.stays_shut (works : e.Works f events) (distinct : e.connections.Distinct)
    (shut : e.connections.Shut) : f.connections.Shut := by
  obtain ⟨calls, keeps, after⟩ := works.connections
  rw [after]
  exact shut.run distinct keeps

theorem Works.sound (works : e.Works f events) (sound : e.requests.Sound) : f.requests.Sound := by
  obtain ⟨calls, after⟩ := works.requests
  rw [after]
  exact sound.run calls

theorem Works.of_ordinary (calls : List ConnectionCall) (others : List RequestCall)
    (keeps : ∀ call ∈ calls, call ≠ .reopen) (connections : f.connections = e.connections.run calls)
    (requests : f.requests = e.requests.run others) (ordinary : ∀ x ∈ events, x.kind.Ordinary) :
    e.Works f events := by
  refine ⟨⟨calls, keeps, connections⟩, ⟨others, requests⟩, ?_, ?_⟩
  · intro x member
    obtain ⟨listening, shutDown, _⟩ := ordinary x member
    exact ⟨listening, shutDown⟩
  · intro _ _ x member
    exact (ordinary x member).2.2

theorem Yields.of_call (call : ConnectionCall) (keeps : call ≠ .reopen)
    (connections : f.connections = e.connections.call call) (requests : f.requests = e.requests)
    (queue : f.queue = e.queue) : e.Yields f [] :=
  ⟨.of_ordinary [call] [] (List.forall_mem_singleton.mpr keeps) connections requests
    (List.forall_mem_nil _), queue.trans (EventQueue.extend_nil _).symm⟩

theorem Yields.of_requests (calls : List RequestCall) (connections : f.connections = e.connections)
    (requests : f.requests = e.requests.run calls) (queue : f.queue = e.queue.extend events)
    (ordinary : ∀ x ∈ events, x.kind.Ordinary) : e.Yields f events :=
  ⟨.of_ordinary [] calls (List.forall_mem_nil _) connections requests ordinary, queue⟩

theorem Yields.of_same (connections : f.connections = e.connections) (requests : f.requests = e.requests)
    (queue : f.queue = e.queue) : e.Yields f [] :=
  .of_requests [] connections requests (queue.trans (EventQueue.extend_nil _).symm)
    (List.forall_mem_nil _)

theorem Yields.refl (e : Engine) : e.Yields e [] := .of_same rfl rfl rfl

theorem yields_emit (e : Engine) {kind : EventKind} (ordinary : kind.Ordinary) (id : String) (payload : Bytes) :
    e.Yields (e.emit kind id payload) [e.cut kind id payload] :=
  .of_requests [] rfl rfl (e.queue_emit kind id payload) (List.forall_mem_singleton.mpr ordinary)

theorem Yields.trans {others : List Envelope} (first : e.Yields f events) (second : f.Yields g others) :
    e.Yields g (events ++ others) := by
  obtain ⟨calls, keeps, connections⟩ := first.connections
  obtain ⟨calls', keeps', connections'⟩ := second.connections
  obtain ⟨asked, requests⟩ := first.requests
  obtain ⟨asked', requests'⟩ := second.requests
  refine ⟨⟨⟨calls ++ calls', ?_, ?_⟩, ⟨asked ++ asked', ?_⟩, ?_, ?_⟩, ?_⟩
  · exact List.forall_mem_append.mpr ⟨keeps, keeps'⟩
  · rw [connections', connections]
    exact List.foldl_append.symm
  · rw [requests', requests]
    exact (e.requests.run_append asked asked').symm
  · exact List.forall_mem_append.mpr ⟨first.silent, second.silent⟩
  · intro distinct shut
    -- the first part of the work leaves the registry shut for the second
    have later := second.shut (first.distinct distinct) (first.stays_shut distinct shut)
    exact List.forall_mem_append.mpr ⟨first.shut distinct shut, later⟩
  · rw [second.queue, first.queue, EventQueue.extend_extend]

def registered (e : Engine) (id : ConnectionId) : Bool × ConnectionRegistry :=
  (e.connections.openLine id).2.register id (e.connections.openLine id).1

theorem connections_openSession (e : Engine) (id : ConnectionId) : (e.openSession id).2.connections =
    if (e.registered id).1 then (e.registered id).2
    else (e.registered id).2.modifyLine (e.connections.openLine id).1 Line.hangUp := by
  unfold registered
  cases accepted : ((e.connections.openLine id).2.register id (e.connections.openLine id).1).1 <;>
    simp [openSession_eq, openLine, register, accepted, modifyLine]

theorem yields_openSession (e : Engine) (id : ConnectionId) : ∃ events, e.Yields (e.openSession id).2 events := by
  have connections := e.connections_openSession id
  let line := (e.connections.openLine id).1
  by_cases taken : e.takes id
  · obtain ⟨_, _, queue, _⟩ := e.openSession_taken id taken
    have accepted : (e.registered id).1 = true := ((e.connections.openLine id).2.register_accepted id line).mpr taken
    rw [if_pos accepted] at connections
    refine ⟨_, ⟨⟨[.openLine id, .register id line], by simp, connections⟩, ⟨[], e.requests_openSession id⟩, ?_, ?_⟩,
      queue⟩
    · rw [List.forall_mem_singleton]
      exact ⟨nofun, nofun⟩
    · intro _ shut
      cases shut.accepting.symm.trans taken.1
  · obtain ⟨_, queue, _⟩ := e.openSession_refused id taken
    have refused : ¬ (e.registered id).1 = true := fun accepted =>
      taken (((e.connections.openLine id).2.register_accepted id line).mp accepted)
    rw [if_neg refused] at connections
    refine ⟨[], .of_ordinary [.openLine id, .register id line, .modifyLine line Line.hangUp] [] (by simp)
       connections (e.requests_openSession id) (List.forall_mem_nil _), ?_⟩
    exact queue.trans (EventQueue.extend_nil _).symm

theorem yields_applyStep (e : Engine) (id : ConnectionId) (line : Nat) (step : SessionStep) :
    ∃ events, e.Yields (e.applyStep id line step) events := by
  have connections : (e.applyStep id line step).connections =
      e.connections.run [.modifyLine line (·.flush step.flushed)] := by
    unfold applyStep
    cases step.message <;> rfl
  refine ⟨_, .of_ordinary _ [] (by simp) connections (e.requests_applyStep id line step) ?_,
    e.queue_applyStep id line step⟩
  intro x member
  obtain ⟨_, _, rfl⟩ := List.mem_map.mp member
  exact ⟨nofun, nofun, nofun, nofun⟩

theorem yields_closeSession (e : Engine) (id : ConnectionId) (line : Nat) (session : Session) :
    ∃ events, e.Yields (e.closeSession id line session) events := by
  have connections : (e.closeSession id line session).connections =
      e.connections.run [.modifyLine line Line.hangUp, .fade id] := e.connections_closeSession id line session
  refine ⟨_, ⟨⟨_, by simp, connections⟩, ⟨[], e.requests_closeSession id line session⟩, ?_, ?_⟩,
    e.queue_closeSession id line session⟩
  · intro x member
    split at member
    · rw [List.mem_singleton.mp member]
      exact ⟨nofun, nofun⟩
    · cases member
  · intro _ shut
    rw [← ConnectionRegistry.isLive, shut.live id]
    exact List.forall_mem_nil _

theorem yields_noticed (e : Engine) (line : Nat) (event : SessionEvent) : e.Yields (e.noticed line event) [] := by
  cases event with
  | outbound frame =>
    have keeps : ConnectionCall.modifyLine line Line.advance ≠ .reopen := nofun
    exact .of_call _ keeps rfl rfl rfl
  | _ => exact .refl e

theorem yields_dispatch (e : Engine) (id : RequestId) (method : Method) (uri : Uri) (headers : Headers)
    (route : String) : ∃ events, e.Yields (e.dispatch id method uri headers route).2 events := by
  let record := RequestRecord.ofHead id method uri headers route e.requests.openResponse.1
  have connections := e.connections_dispatch id method uri headers route
  have requests : (e.dispatch id method uri headers route).2.requests = e.requests.run [.takeIn record] := by
    unfold dispatch
    dsimp only
    split <;> rfl
  cases used : e.requests.has id with
  | false =>
    obtain ⟨_, queue, _⟩ := e.dispatch_taken id method uri headers route used
    refine ⟨_, .of_requests [.takeIn record] connections requests queue ?_⟩
    rw [List.forall_mem_singleton]
    exact ⟨nofun, nofun, nofun, nofun⟩
  | true =>
    obtain ⟨_, queue, _⟩ := e.dispatch_refused id method uri headers route used
    exact ⟨[], .of_requests [.takeIn record] connections requests (queue.trans (EventQueue.extend_nil _).symm)
      (List.forall_mem_nil _)⟩

theorem yields_handleRequest (e : Engine) (id : RequestId) (method : Method) (uri : Uri) (headers : Headers) :
    ∃ events, e.Yields (e.handleRequest id method uri headers).2 events := by
  unfold handleRequest
  dsimp only
  split
  · exact ⟨[], .refl e⟩
  · split
    · obtain ⟨_, queue, connections, requests⟩ := e.upgrade_quiet headers
      exact ⟨[], .of_same connections requests queue⟩
    · exact e.yields_dispatch id method uri headers _

theorem ordinary_ite {p : Prop} [Decidable p] {x : Envelope} (ordinary : x.kind.Ordinary) :
    ∀ y ∈ if p then [x] else [], y.kind.Ordinary := by
  split
  · exact List.forall_mem_singleton.mpr ordinary
  · exact List.forall_mem_nil _

theorem yields_receiveBody (e : Engine) (id : RequestId) (data : Bytes) :
    ∃ events, e.Yields (e.receiveBody id data) events :=
  ⟨_, .of_requests [] (e.connections_receiveBody id data) (e.requests_receiveBody id data)
    (e.queue_receiveBody id data) (ordinary_ite ⟨nofun, nofun, nofun, nofun⟩)⟩

theorem yields_receiveBodyEnd (e : Engine) (id : RequestId) : ∃ events, e.Yields (e.receiveBodyEnd id) events :=
  ⟨_, .of_requests [] (e.connections_receiveBodyEnd id) (e.requests_receiveBodyEnd id)
    (e.queue_receiveBodyEnd id) (ordinary_ite ⟨nofun, nofun, nofun, nofun⟩)⟩

theorem yields_abandonRequest (e : Engine) (id : RequestId) : ∃ events, e.Yields (e.abandonRequest id) events :=
  ⟨_, .of_requests [.abort id] (e.connections_abandonRequest id) (e.requests_abandonRequest id)
    (e.queue_abandonRequest id) (ordinary_ite ⟨nofun, nofun, nofun, nofun⟩)⟩

theorem yields_pollBody (e : Engine) (id : RequestId) (n : Nat) : ∃ events, e.Yields (e.pollBody id n).2 events := by
  refine ⟨_, .of_requests [.pollBody n] (e.connections_pollBody id n) (e.requests_pollBody id n)
    (e.queue_pollBody id n) ?_⟩
  intro x member
  obtain ⟨_, _, rfl⟩ := List.mem_map.mp member
  exact ⟨nofun, nofun, nofun, nofun⟩

theorem yields_requests (e : Engine) (call : RequestCall) : e.Yields { e with requests := e.requests.call call } [] :=
  .of_requests [call] rfl rfl (EventQueue.extend_nil _).symm (List.forall_mem_nil _)

end Engine

namespace Service

theorem yields_complete (v : Service) (id : Uuid) (line : Nat) (step : SessionStep) :
    ∃ events, v.engine.Yields (v.complete id line step).engine events := by
  obtain ⟨first, applied⟩ := v.engine.yields_applyStep ⟨id⟩ line step
  unfold complete
  dsimp only
  split
  · obtain ⟨last, closed⟩ := (v.engine.applyStep ⟨id⟩ line step).yields_closeSession ⟨id⟩ line step.session
    exact ⟨first ++ last, applied.trans closed⟩
  · exact ⟨first, applied⟩

theorem yields_moveSession (v : Service) (id : Uuid) (move : SessionMove) :
    ∃ events, v.engine.Yields (v.moveSession id move).engine events := by
  have moved := v.moved id move
  generalize v.moveSession id move = w, v.sessionTurn? id move = turn? at *
  cases moved with
  | nothing => exact ⟨[], .refl _⟩
  | starts => exact v.engine.yields_openSession ⟨id⟩
  | waits => exact ⟨[], v.engine.yields_noticed _ _⟩
  | completes => exact v.yields_complete _ _ _
  | @fails n =>
    have keeps : ConnectionCall.modifyLine n Line.hangUp ≠ .reopen := nofun
    exact ⟨[], .of_call _ keeps rfl rfl rfl⟩

theorem yields_moveRequest (v : Service) (id : Uuid) (move : RequestMove) :
    ∃ events, v.engine.Yields (v.moveRequest id move).engine events := by
  have moved := v.requestMoved id move
  generalize v.requestEffect id move = effect, v.moveRequest id move = w at *
  cases moved with
  | nothing | bodyLost => exact ⟨[], .refl _⟩
  | begins | answered => exact v.engine.yields_handleRequest _ _ _ _
  | bodyPart => exact v.engine.yields_receiveBody _ _
  | bodyEnd => exact v.engine.yields_receiveBodyEnd _
  | pollHead n => exact ⟨[], v.engine.yields_requests (.pollHead n)⟩
  | drains | pollBody => exact v.engine.yields_pollBody _ _
  | hangUp n => exact ⟨[], v.engine.yields_requests (.hangUp n)⟩
  | @letGo n =>
    have dropped := v.engine.yields_requests (.hangUp n)
    obtain ⟨events, abandoned⟩ := (v.engine.dropBody n).yields_abandonRequest ⟨id⟩
    exact ⟨[] ++ events, dropped.trans abandoned⟩

theorem pulled_complete (v : Service) (id : Uuid) (line : Nat) (step : SessionStep) :
    (v.complete id line step).pulled = v.pulled := by
  unfold complete
  dsimp only
  split <;> rfl

theorem pulled_moveSession (v : Service) (id : Uuid) (move : SessionMove) :
    (v.moveSession id move).pulled = v.pulled := by
  have moved := v.moved id move
  generalize v.moveSession id move = w, v.sessionTurn? id move = turn? at *
  cases moved with
  | completes => exact v.pulled_complete _ _ _
  | _ => rfl

theorem pulled_moveRequest (v : Service) (id : Uuid) (move : RequestMove) :
    (v.moveRequest id move).pulled = v.pulled := by
  have moved := v.requestMoved id move
  generalize v.requestEffect id move = effect, v.moveRequest id move = w at *
  cases moved <;> rfl

end Service

end Gateway
