import Gateway.Proofs.Server.Stop
import Gateway.Proofs.Service.Simulation
import Gateway.Proofs.Service.Work

namespace Gateway

open WebSocket (Outbound)

inductive ServerCall where
  /-- The server is to listen on a port; `bound` is what becomes of the attempt. -/
  | start (requested : Nat) (bound : Except String Nat)
  | stop
  | addRoute (verb : Verb) (pattern : String)
  | sendText (id : ConnectionId) (data : Bytes)
  | sendBinary (id : ConnectionId) (data : Bytes)
  | sendCompressedText (id : ConnectionId) (data : Bytes)
  | broadcastText (data : Bytes)
  | broadcastBinary (data : Bytes)
  | broadcastCompressedText (data : Bytes)
  | disconnect (id : ConnectionId)
  | purge
  | setStatus (id : RequestId) (line : String)
  | setHeader (id : RequestId) (name value : String)
  | write (id : RequestId) (data : Bytes)
  | tryEnd (id : RequestId) (data : Bytes) (totalSize : Nat)
  | finish (id : RequestId) (data : Bytes)

namespace ServerCall

def apply (s : Server) : ServerCall → Server
  | start requested bound => (s.startListening requested bound).2
  | stop => s.stopListening.2
  | addRoute verb pattern => s.addRoute verb pattern
  | sendText id data => (s.sendText id data).2
  | sendBinary id data => (s.sendBinary id data).2
  | sendCompressedText id data => (s.sendCompressedText id data).2
  | broadcastText data => (s.broadcastText data).2
  | broadcastBinary data => (s.broadcastBinary data).2
  | broadcastCompressedText data => (s.broadcastCompressedText data).2
  | disconnect id => (s.disconnect id).2
  | purge => s.purge.2
  | setStatus id line => (s.setStatus id line).2
  | setHeader id name value => (s.setHeader id name value).2
  | write id data => (s.write id data).2
  | tryEnd id data totalSize => (s.tryEnd id data totalSize).2
  | finish id data => (s.finish id data).2

def Plain : ServerCall → Prop
  | start _ _ | stop => False
  | _ => True

end ServerCall

/-- A server with the tasks that share its engine, and the events that the host has taken. -/
structure Deployment where
  server : Server
  task : Uuid → Task
  pulled : List Envelope

inductive DeploymentMove where
  | call (call : ServerCall)
  | session (id : Uuid) (move : SessionMove)
  | request (id : Uuid) (move : RequestMove)
  | pop
  | drain (count : Nat)

def DeploymentMove.Starts : DeploymentMove → Prop
  | call (.start _ (.ok _)) => True
  | _ => False

namespace Deployment

def create (config : ServerConfig) : Deployment := ⟨.create config, fun _ => .unused, []⟩

def service (d : Deployment) : Service := ⟨d.server.engine, d.task, d.pulled⟩

def resume (d : Deployment) (v : Service) : Deployment := ⟨{ d.server with engine := v.engine }, v.task, v.pulled⟩

def step (d : Deployment) : DeploymentMove → Deployment
  | .call call => { d with server := call.apply d.server }
  | .session id move => d.resume (d.service.moveSession id move)
  | .request id move => d.resume (d.service.moveRequest id move)
  | .pop => { d with server := d.server.popEvent.2, pulled := d.pulled ++ d.server.engine.queue.peek?.toList }
  | .drain count =>
    let (taken, server) := d.server.drainEvents count
    { d with server, pulled := d.pulled ++ taken }

def run (d : Deployment) (moves : List DeploymentMove) : Deployment := moves.foldl step d

def history (d : Deployment) : List Envelope := d.service.history

/-- The kinds of the events about the begin and end of the server. -/
def changes (d : Deployment) : List EventKind :=
  (d.history.map (·.kind)).filter fun kind => kind == .listening || kind == .shutDown

def alternation (n : Nat) : List EventKind :=
  (List.range n).map fun i => if i % 2 = 0 then .listening else .shutDown

theorem alternation_succ (n : Nat) :
    alternation (n + 1) = alternation n ++ [if n % 2 = 0 then .listening else .shutDown] := by
  rw [alternation, List.range_succ, List.map_append, List.map_singleton]
  rfl

variable {d : Deployment}

theorem yields_plain (s : Server) {call : ServerCall} (plain : call.Plain) :
    s.engine.Yields (call.apply s).engine [] ∧ (call.apply s).state = s.state ∧ (call.apply s).port = s.port := by
  have sends (id : ConnectionId) (frame : Outbound) : s.engine.Yields (s.engine.send id frame).2 [] :=
    .of_call (.send id frame) nofun rfl rfl rfl
  have broadcasts (frame : Outbound) : s.engine.Yields (s.engine.broadcast frame).2 [] :=
    .of_call (.broadcast frame) nofun rfl rfl rfl
  have texts (id : ConnectionId) (data : Bytes) : s.engine.Yields (s.sendText id data).2.engine [] ∧
      (s.sendText id data).2.state = s.state ∧ (s.sendText id data).2.port = s.port := by
    unfold Server.sendText
    split
    · exact ⟨sends id _, rfl, rfl⟩
    · exact ⟨.of_same rfl rfl rfl, rfl, rfl⟩
  have broadcastTexts (data : Bytes) : s.engine.Yields (s.broadcastText data).2.engine [] ∧
      (s.broadcastText data).2.state = s.state ∧ (s.broadcastText data).2.port = s.port := by
    unfold Server.broadcastText
    split
    · exact ⟨broadcasts _, rfl, rfl⟩
    · exact ⟨.refl _, rfl, rfl⟩
  cases call with
  | start | stop => exact plain.elim
  | addRoute verb pattern => exact ⟨.of_same rfl rfl rfl, rfl, rfl⟩
  | sendText id data | sendCompressedText id data => exact texts id data
  | sendBinary id data => exact ⟨sends id _, rfl, rfl⟩
  | broadcastText data | broadcastCompressedText data => exact broadcastTexts data
  | broadcastBinary data => exact ⟨broadcasts _, rfl, rfl⟩
  | disconnect id => exact ⟨.of_call (.disconnect id (.of .normal "")) nofun rfl rfl rfl, rfl, rfl⟩
  | purge => exact ⟨.of_call .purge nofun rfl rfl rfl, rfl, rfl⟩
  | setStatus id line => exact ⟨s.engine.yields_requests (.setStatus id line), rfl, rfl⟩
  | setHeader id name value => exact ⟨s.engine.yields_requests (.setHeader id name value), rfl, rfl⟩
  | write id data => exact ⟨s.engine.yields_requests (.write id data), rfl, rfl⟩
  | tryEnd id data totalSize => exact ⟨s.engine.yields_requests (.tryEnd id data totalSize), rfl, rfl⟩
  | finish id data => exact ⟨s.engine.yields_requests (.finish id data), rfl, rfl⟩

structure Goes (d d' : Deployment) (events : List Envelope) : Prop where
  works : d.server.engine.Works d'.server.engine events
  history : d'.history = d.history ++ events
  state : d'.server.state = d.server.state
  port : d'.server.port = d.server.port

theorem history_extend {d' : Deployment} {events : List Envelope} (pulled : d'.pulled = d.pulled)
    (queue : d'.server.engine.queue = d.server.engine.queue.extend events) : d'.history = d.history ++ events := by
  simp only [history, service, Service.history, pulled, queue, EventQueue.events_extend, List.append_assoc]

theorem goes_of_yields {d' : Deployment} {events : List Envelope}
    (yields : d.server.engine.Yields d'.server.engine events) (pulled : d'.pulled = d.pulled)
    (state : d'.server.state = d.server.state) (port : d'.server.port = d.server.port) : d.Goes d' events :=
  ⟨yields.toWorks, history_extend pulled yields.queue, state, port⟩

theorem Goes.refl (d : Deployment) : d.Goes d [] := goes_of_yields (.refl _) rfl rfl rfl

theorem goes_of_taken {d' : Deployment} (connections : d'.server.engine.connections = d.server.engine.connections)
    (requests : d'.server.engine.requests = d.server.engine.requests) (history : d'.history = d.history)
    (state : d'.server.state = d.server.state) (port : d'.server.port = d.server.port) : d.Goes d' [] :=
  ⟨.of_ordinary [] [] (List.forall_mem_nil _) connections requests (List.forall_mem_nil _),
    history.trans (List.append_nil _).symm, state, port⟩

theorem goes_plain (d : Deployment) {call : ServerCall} (plain : call.Plain) : d.Goes (d.step (.call call)) [] := by
  obtain ⟨yields, state, port⟩ := yields_plain d.server plain
  exact goes_of_yields yields rfl state port

theorem step_cases (d : Deployment) (move : DeploymentMove) :
    (∃ events, d.Goes (d.step move) events) ∨
    (∃ requested port, move = .call (.start requested (.ok port)) ∧ d.server.state = .idle) ∨
    (move = .call .stop ∧ d.server.state = .listening) := by
  cases move with
  | session id move =>
    obtain ⟨events, yields⟩ := d.service.yields_moveSession id move
    exact .inl ⟨events, goes_of_yields yields (d.service.pulled_moveSession id move) rfl rfl⟩
  | request id move =>
    obtain ⟨events, yields⟩ := d.service.yields_moveRequest id move
    exact .inl ⟨events, goes_of_yields yields (d.service.pulled_moveRequest id move) rfl rfl⟩
  | pop => exact .inl ⟨[], goes_of_taken rfl rfl d.service.history_pop rfl rfl⟩
  | drain count => exact .inl ⟨[], goes_of_taken rfl rfl (d.service.history_drain count) rfl rfl⟩
  | call call =>
    cases call with
    | start requested bound =>
      by_cases idle : d.server.state = .idle
      · cases bound with
        | ok port => exact .inr (.inl ⟨requested, port, rfl, idle⟩)
        | error fault =>
          have failed := Server.startListening_failed idle requested fault
          have error : EventKind.error.Ordinary := ⟨nofun, nofun, nofun, nofun⟩
          have told := d.server.engine.yields_emit error serverId (d.server.bindMessage requested fault)
          rw [step, ServerCall.apply, failed]
          exact .inl ⟨_, goes_of_yields told rfl rfl rfl⟩
      · rw [step, ServerCall.apply, Server.startListening_busy idle]
        exact .inl ⟨[], .refl d⟩
    | stop =>
      by_cases listening : d.server.state = .listening
      · exact .inr (.inr ⟨rfl, listening⟩)
      · rw [step, ServerCall.apply, Server.stopListening_idle listening]
        exact .inl ⟨[], .refl d⟩
    | _ =>
      refine .inl ⟨[], d.goes_plain ?_⟩
      trivial

/-- The server is as its state tells, its registries are in order, and it has begun and ended in turn. -/
structure Settled (d : Deployment) : Prop where
  agrees : d.server.state = .listening ↔ d.server.port.isSome = true
  rests : d.server.state ≠ .listening → d.server.state = .idle
  distinct : d.server.engine.connections.Distinct
  sound : d.server.engine.requests.Sound
  turns : d.changes = alternation d.changes.length
  parity : d.server.state = .listening ↔ d.changes.length % 2 = 1

theorem settled_create (config : ServerConfig) : (create config).Settled where
  agrees := ⟨nofun, nofun⟩
  rests := fun _ => rfl
  distinct := List.nodup_nil
  sound := RequestRegistry.sound_empty _
  turns := rfl
  parity := ⟨nofun, nofun⟩

theorem changes_extend {d' : Deployment} {events : List Envelope} (history : d'.history = d.history ++ events) :
    d'.changes =
      d.changes ++ (events.map (·.kind)).filter fun kind => kind == .listening || kind == .shutDown := by
  rw [changes, history, List.map_append, List.filter_append, changes]

theorem Settled.goes (settled : d.Settled) {d' : Deployment} {events : List Envelope} (goes : d.Goes d' events) :
    d'.Settled := by
  -- such work tells of no begin and no end of the server
  have silent : (events.map (·.kind)).filter (fun kind => kind == .listening || kind == .shutDown) = [] := by
    rw [List.filter_eq_nil_iff]
    intro kind member
    obtain ⟨x, told, rfl⟩ := List.mem_map.mp member
    obtain ⟨listening, shutDown⟩ := goes.works.silent x told
    simp [listening, shutDown]
  have changes : d'.changes = d.changes := by
    rw [changes_extend goes.history, silent, List.append_nil]
  refine ⟨?_, ?_, goes.works.distinct settled.distinct, goes.works.sound settled.sound, ?_, ?_⟩
  · rw [goes.state, goes.port]
    exact settled.agrees
  · rw [goes.state]
    exact settled.rests
  · rw [changes]
    exact settled.turns
  · rw [goes.state, changes]
    exact settled.parity

theorem turns_snoc {before after : List EventKind} {kind : EventKind} (turns : before = alternation before.length)
    (next : kind = if before.length % 2 = 0 then .listening else .shutDown) (told : after = before ++ [kind]) :
    after = alternation after.length := by
  rw [told, List.length_append, List.length_singleton, alternation_succ, ← turns, next]

theorem step_start (idle : d.server.state = .idle) (requested port : Nat) :
    d.step (.call (.start requested (.ok port))) = { d with server :=
      { engine := d.server.engine.reopen.emitServer .listening (Text.bytes (Text.Decimal.text port))
        state := .listening, port := some port } } := by
  rw [step, ServerCall.apply, Server.startListening_bound idle]

theorem history_start (idle : d.server.state = .idle) (requested port : Nat) :
    (d.step (.call (.start requested (.ok port)))).history =
      d.history ++ [d.server.engine.cut .listening serverId (Text.bytes (Text.Decimal.text port))] := by
  rw [step_start idle]
  exact history_extend rfl rfl

theorem Settled.start (settled : d.Settled) (idle : d.server.state = .idle) (requested port : Nat) :
    (d.step (.call (.start requested (.ok port)))).Settled := by
  have told : (d.step (.call (.start requested (.ok port)))).changes = d.changes ++ [.listening] :=
    changes_extend (history_start idle requested port)
  have even : d.changes.length % 2 = 0 := by
    have quiet : d.server.state ≠ .listening := by
      rw [idle]
      nofun
    have odd := mt settled.parity.mpr quiet
    omega
  rw [step_start idle] at told ⊢
  refine ⟨iff_of_true rfl rfl, fun quiet => absurd rfl quiet, settled.distinct, settled.sound, ?_, ?_⟩
  · exact turns_snoc settled.turns (if_pos even).symm told
  · rw [told, List.length_append, List.length_singleton]
    exact iff_of_true rfl (by omega)

theorem history_stop (settled : d.Settled) (listening : d.server.state = .listening) :
    (d.step (.call .stop)).history = d.history ++
      (((d.server.engine.connections.shutDown Server.stopping).1.map fun id =>
        d.server.engine.cut .closed id.text Server.stopping.payload) ++
      [d.server.engine.cut .shutDown serverId []]) :=
  history_extend rfl (Server.queue_stopListening listening (settled.agrees.mp listening))

theorem Settled.stop (settled : d.Settled) (listening : d.server.state = .listening) :
    (d.step (.call .stop)).Settled := by
  have port := settled.agrees.mp listening
  have silent (ids : List ConnectionId) :
      ((ids.map fun id => d.server.engine.cut .closed id.text Server.stopping.payload).map (·.kind)).filter
        (fun kind => kind == .listening || kind == .shutDown) = [] := by
    rw [List.filter_eq_nil_iff]
    intro kind member
    simp only [List.mem_map] at member
    obtain ⟨_, ⟨_, _, rfl⟩, rfl⟩ := member
    nofun
  have told : (d.step (.call .stop)).changes = d.changes ++ [.shutDown] := by
    rw [changes_extend (history_stop settled listening), List.map_append, List.filter_append, silent]
    rfl
  have odd := settled.parity.mp listening
  have idle : (d.step (.call .stop)).server.state = .idle ∧ (d.step (.call .stop)).server.port = none :=
    (Server.halts_stopListening listening port settled.distinct settled.sound).idle
  have distinct : (d.step (.call .stop)).server.engine.connections.Distinct := by
    rw [step, ServerCall.apply, Server.connections_stopListening listening port]
    exact settled.distinct.shutDown _
  have sound : (d.step (.call .stop)).server.engine.requests.Sound := by
    rw [step, ServerCall.apply, Server.requests_stopListening listening port]
    exact settled.sound.abortAll _
  refine ⟨?_, fun _ => idle.1, distinct, sound, ?_, ?_⟩
  · rw [idle.1, idle.2]
    exact ⟨nofun, nofun⟩
  · exact turns_snoc settled.turns (if_neg (by omega)).symm told
  · rw [told, idle.1, List.length_append, List.length_singleton]
    exact iff_of_false nofun (by omega)

theorem Settled.step (settled : d.Settled) (move : DeploymentMove) : (d.step move).Settled := by
  rcases d.step_cases move with ⟨_, goes⟩ | ⟨requested, port, rfl, idle⟩ | ⟨rfl, listening⟩
  · exact settled.goes goes
  · exact settled.start idle requested port
  · exact settled.stop listening

theorem Settled.run (settled : d.Settled) (moves : List DeploymentMove) : (d.run moves).Settled := by
  induction moves generalizing d with
  | nil => exact settled
  | cons move rest ih => exact ih (settled.step move)

structure Halted (d : Deployment) : Prop where
  idle : d.server.state = .idle
  distinct : d.server.engine.connections.Distinct
  shut : d.server.engine.connections.Shut

theorem Settled.halted (settled : d.Settled) (listening : d.server.state = .listening) :
    (d.step (.call .stop)).Halted := by
  have port := settled.agrees.mp listening
  have after := settled.stop listening
  refine ⟨after.rests ?_, after.distinct, ?_⟩
  · rw [Deployment.step, ServerCall.apply, Server.stopListening_running listening port]
    nofun
  · rw [Deployment.step, ServerCall.apply, Server.connections_stopListening listening port]
    exact d.server.engine.connections.shut_shutDown _

/-- Unless a start succeeds, the server stays halted, and no connection begins or ends. -/
theorem Halted.step (halted : d.Halted) {move : DeploymentMove} (waits : ¬ move.Starts) :
    (d.step move).Halted ∧ ∃ events, (d.step move).history = d.history ++ events ∧
      ∀ x ∈ events, x.kind ≠ .opened ∧ x.kind ≠ .closed := by
  rcases d.step_cases move with ⟨events, goes⟩ | ⟨_, _, rfl, _⟩ | ⟨_, listening⟩
  · have works := goes.works
    exact ⟨⟨goes.state.trans halted.idle, works.distinct halted.distinct,
      works.stays_shut halted.distinct halted.shut⟩, events, goes.history, works.shut halted.distinct halted.shut⟩
  · exact absurd trivial waits
  · cases halted.idle.symm.trans listening

theorem Halted.run (halted : d.Halted) {moves : List DeploymentMove} (waits : ∀ move ∈ moves, ¬ move.Starts) :
    (d.run moves).Halted ∧ ∃ events, (d.run moves).history = d.history ++ events ∧
      ∀ x ∈ events, x.kind ≠ .opened ∧ x.kind ≠ .closed := by
  induction moves generalizing d with
  | nil => exact ⟨halted, [], (List.append_nil _).symm, List.forall_mem_nil _⟩
  | cons move rest ih =>
    obtain ⟨first, others⟩ := List.forall_mem_cons.mp waits
    obtain ⟨next, events, history, silent⟩ := halted.step first
    obtain ⟨last, more, after, quiet⟩ := ih next others
    refine ⟨last, events ++ more, ?_, List.forall_mem_append.mpr ⟨silent, quiet⟩⟩
    rw [← List.append_assoc, ← history]
    exact after

theorem Halted.refuses (halted : d.Halted) (id : ConnectionId) :
    (∀ line, (d.server.engine.connections.register id line).1 = false) ∧
      (d.server.engine.openSession id).1 = none := by
  have closed := halted.shut.accepting
  constructor
  · intro line
    rw [Bool.eq_false_iff]
    intro accepted
    cases closed.symm.trans ((ConnectionRegistry.register_accepted _ _ _).mp accepted).1
  · refine (d.server.engine.openSession_refused id ?_).1
    intro taken
    cases closed.symm.trans taken.1

/-- For every run of a server with its tasks:

    * it listens exactly if it has a port; a start succeeds exactly if it is idle and there is a socket, and
      a stop exactly if it listens;
    * a call that fails changes nothing, except that the host is told of a socket that is not to be had;
    * the server begins and ends in turn, and it listens after each begin;
    * a stop halts it, as `Server.Halts` tells;
    * after a stop and until a start succeeds no connection is taken, and none begins or ends. -/
theorem starts_and_stops (config : ServerConfig) (moves : List DeploymentMove) :
    let d := (create config).run moves
    let s := d.server
    ((s.state = .listening ↔ s.port.isSome = true) ∧
      (∀ requested bound, (s.startListening requested bound).1 = true ↔ s.state = .idle ∧ ∃ port, bound = .ok port) ∧
      (s.stopListening.1 = true ↔ s.state = .listening)) ∧
    ((∀ requested bound, s.state ≠ .idle → s.startListening requested bound = (false, s)) ∧
      (∀ requested fault, s.state = .idle →
        let told := s.engine.emitServer .error (s.bindMessage requested fault)
        s.startListening requested (.error fault) = (false, { s with engine := told }) ∧
          told.queue = s.engine.queue.extend [s.engine.cut .error serverId (s.bindMessage requested fault)]) ∧
      (s.state ≠ .listening → s.stopListening = (false, s))) ∧
    (d.changes = alternation d.changes.length ∧ (s.state = .listening ↔ d.changes.length % 2 = 1)) ∧
    (s.state = .listening → s.Halts s.stopListening.2) ∧
    (s.state = .listening → ∀ later, (∀ move ∈ later, ¬ move.Starts) →
      let halted := d.step (.call .stop)
      let after := halted.run later
      (∀ id, (∀ line, (after.server.engine.connections.register id line).1 = false) ∧
        (after.server.engine.openSession id).1 = none) ∧
      ∃ events, after.history = halted.history ++ events ∧ ∀ x ∈ events, x.kind ≠ .opened ∧ x.kind ≠ .closed) := by
  intro d s
  have settled : d.Settled := (settled_create config).run moves
  refine ⟨⟨settled.agrees, s.startListening_answer, ?_⟩, ⟨?_, ?_, ?_⟩, ⟨settled.turns, settled.parity⟩, ?_, ?_⟩
  · by_cases listening : s.state = .listening
    · rw [Server.stopListening_running listening (settled.agrees.mp listening)]
      exact iff_of_true rfl listening
    · rw [Server.stopListening_idle listening]
      exact iff_of_false nofun listening
  · exact fun requested bound busy => Server.startListening_busy busy requested bound
  · exact fun requested fault idle => ⟨Server.startListening_failed idle requested fault, rfl⟩
  · exact Server.stopListening_idle
  · intro listening
    exact Server.halts_stopListening listening (settled.agrees.mp listening) settled.distinct settled.sound
  · intro listening later waits halted after
    obtain ⟨last, silent⟩ := (settled.halted listening).run waits
    exact ⟨last.refuses, silent⟩

def caller : Uuid := .fresh 0 1

def served : List DeploymentMove :=
  [.call (.addRoute .get "/"), .call (.start 0 (.ok 8080)), .session caller (.start {} 0),
    .request (.fresh 0 2) (.arrive ⟨"GET", by decide⟩ ⟨"/", none⟩ []), .call (.write ⟨.fresh 0 2⟩ [7])]

theorem starts_and_stops_served :
    let d := (create {}).run served
    let halted := d.step (.call .stop)
    d.server.state = .listening ∧ d.changes = [.listening] ∧
    d.server.Halts d.server.stopListening.2 ∧ d.server.engine.requests.length = 1 ∧
    ((halted.run [.session caller (.readEnd 1), .call (.start 0 (.error "in use"))]).server.engine.openSession
      ⟨.fresh 0 3⟩).1 = none := by
  intro d halted
  obtain ⟨_, _, ⟨turns, _⟩, stops, rests⟩ := starts_and_stops {} served
  have listening : d.server.state = .listening := by decide
  have count : d.changes.length = 1 := by decide
  obtain ⟨refused, _⟩ := rests listening [.session caller (.readEnd 1), .call (.start 0 (.error "in use"))]
    (by simp [DeploymentMove.Starts])
  rw [count] at turns
  exact ⟨listening, turns, stops listening, by decide, (refused ⟨.fresh 0 3⟩).2⟩

end Deployment

end Gateway
