import Gateway.Proofs.Engine.Broadcast
import Gateway.Proofs.Engine.Reports
import Gateway.Proofs.Server.Traffic
import Gateway.Proofs.Service.Lines
import Gateway.Proofs.Text.Utf8
import Mathlib.Data.Set.Card

namespace Gateway

open WebSocket (Outbound)
open Measurement (Balanced)

theorem ServerError.message_ne (e : ServerError) : e.message ≠ "" := by
  have begins {s : String} (some : s ≠ "") (t : String) : s ++ t ≠ "" := by
    intro empty
    have chars := congrArg String.toList empty
    rw [String.toList_append] at chars
    exact some (String.toList_inj.mp (List.append_eq_nil_iff.mp chars).1)
  cases e with
  | bind address fault => exact begins (begins (begins (by decide) address) ": ") fault
  | invalidState text => exact begins (by decide) text
  | runtime fault => exact begins (by decide) fault

namespace Server

def deliveries (s : Server) (frame : Outbound) : List SendStatus :=
  s.engine.connections.live.map fun c => (s.engine.send c.1 frame).1

def outcomes (s : Server) : ServerCall → List SendStatus
  | .sendText id data => [(s.sendText id data).1]
  | .sendBinary id data => [(s.sendBinary id data).1]
  | .sendCompressedText id data => [(s.sendCompressedText id data).1]
  | .broadcastText data | .broadcastCompressedText data => ((Outbound.ofBytes? data).map s.deliveries).getD []
  | .broadcastBinary data => s.deliveries (.binary data)
  | _ => []

def attempts (s : Server) : ServerCall → Nat
  | .sendText _ _ | .sendBinary _ _ | .sendCompressedText _ _ => 1
  | .broadcastText data | .broadcastCompressedText data =>
    if (Outbound.ofBytes? data).isSome then s.clientCount else 0
  | .broadcastBinary _ => s.clientCount
  | _ => 0

theorem length_outcomes (s : Server) (call : ServerCall) : (s.outcomes call).length = s.attempts call := by
  have all (frame : Outbound) : (s.deliveries frame).length = s.clientCount := List.length_map _
  cases call with
  | broadcastText data | broadcastCompressedText data =>
    simp only [outcomes, attempts]
    cases Outbound.ofBytes? data with
    | none => rfl
    | some frame => exact all frame
  | broadcastBinary data => exact all _
  | _ => rfl

theorem reports_sendText (s : Server) (id : ConnectionId) (data : Bytes) :
    s.engine.Reports (s.sendText id data).2.engine [] 0 [(s.sendText id data).1] := by
  unfold sendText
  split
  · exact s.engine.reports_send id _
  · exact Engine.reports_measure _ rfl rfl

theorem reports_broadcastText (s : Server) (data : Bytes) :
    ∃ sent, s.engine.Reports (s.broadcastText data).2.engine [] 0 sent ∧
      (s.engine.connections.Wired → sent = ((Outbound.ofBytes? data).map s.deliveries).getD []) := by
  unfold broadcastText Outbound.ofBytes?
  cases Outbound.ofBytes data with
  | ok frame => exact ⟨_, s.engine.reports_broadcast frame, fun wired => wired.apart.statuses_broadcast frame⟩
  | error e => exact ⟨[], .refl _, fun _ => rfl⟩

theorem bindMessage_ne_nil (s : Server) (requested : Nat) (fault : String) : s.bindMessage requested fault ≠ [] := by
  intro empty
  -- no text but the empty one is written as no bytes
  have read := (Text.ofBytes?_eq_some_iff [] _).mpr empty.symm
  exact ServerError.message_ne _ (Option.some.inj read).symm

theorem reports_startListening (s : Server) (requested : Nat) (bound : Except String Nat) :
    ∃ events, s.engine.Reports (s.startListening requested bound).2.engine events 0 [] := by
  by_cases idle : s.state = .idle
  · cases bound with
    | ok port =>
      have same : s.engine.Reports s.engine.reopen [] 0 [] := .of_same rfl rfl
      rw [startListening_bound idle]
      exact ⟨_, same.trans (Engine.reports_tell _ .listening (by decide) serverId _)⟩
    | error fault =>
      rw [startListening_failed idle]
      exact ⟨_, s.engine.reports_emit (by decide) serverId fun _ => s.bindMessage_ne_nil requested fault⟩
  · rw [startListening_busy idle]
    exact ⟨[], .refl _⟩

theorem reports_stopListening (s : Server) : ∃ events, s.engine.Reports s.stopListening.2.engine events 0 [] := by
  unfold stopListening
  split
  · exact ⟨[], .refl _⟩
  · split
    · exact ⟨[], .refl _⟩
    · obtain ⟨events, closed⟩ := s.engine.reports_closeConnections stopping
      have same : (s.engine.closeConnections stopping).2.Reports
          ((s.engine.closeConnections stopping).2.withRequests (·.abortAll .serviceUnavailable)).2 [] 0 [] :=
        .of_same rfl rfl
      exact ⟨_, closed.trans (same.trans (Engine.reports_tell _ .shutDown (by decide) serverId []))⟩

end Server

theorem ServerCall.reports_apply (s : Server) (call : ServerCall) :
    ∃ events sent, s.engine.Reports (call.apply s).engine events 0 sent ∧
      (s.engine.connections.Wired → sent = s.outcomes call) := by
  cases call with
  | start requested bound =>
    obtain ⟨events, reports⟩ := s.reports_startListening requested bound
    exact ⟨events, [], reports, fun _ => rfl⟩
  | stop =>
    obtain ⟨events, reports⟩ := s.reports_stopListening
    exact ⟨events, [], reports, fun _ => rfl⟩
  | sendText id data | sendCompressedText id data => exact ⟨[], _, s.reports_sendText id data, fun _ => rfl⟩
  | sendBinary id data => exact ⟨[], _, s.engine.reports_send id _, fun _ => rfl⟩
  | broadcastText data | broadcastCompressedText data => exact ⟨[], s.reports_broadcastText data⟩
  | broadcastBinary data =>
    exact ⟨[], _, s.engine.reports_broadcast _, fun wired => wired.apart.statuses_broadcast _⟩
  | _ => exact ⟨[], [], .of_same rfl rfl, fun _ => rfl⟩

namespace Task

def isSession : Task → Bool
  | session _ _ _ => true
  | _ => false

def isCounted (task : Task) : Bool := task.isSession || task == .failed

def counted (task : Uuid → Task) : Set Uuid := {u | (task u).isCounted = true}

structure Counts (before after : Uuid → Task) (opened : Int) : Prop where
  finite : (counted after).Finite
  count : ((counted after).ncard : Int) = (counted before).ncard + opened

variable {task : Uuid → Task}

theorem Counts.of_same {after : Uuid → Task} (finite : (counted task).Finite)
    (same : counted after = counted task) : Counts task after 0 := by
  refine ⟨same ▸ finite, ?_⟩
  rw [same, Int.add_zero]

theorem mem_counted_update (task : Uuid → Task) (id u : Uuid) (next : Task) :
    u ∈ counted (Function.update task id next) ↔ if u = id then next.isCounted = true else u ∈ counted task := by
  by_cases same : u = id <;> simp [counted, same, Function.update]

theorem counts_begin (finite : (counted task).Finite) {id : Uuid} {next : Task}
    (before : (task id).isCounted = false) (after : next.isCounted = true) :
    Counts task (Function.update task id next) 1 := by
  have absent : id ∉ counted task := by simp [counted, before]
  have more : counted (Function.update task id next) = insert id (counted task) := by
    ext u
    rw [mem_counted_update, Set.mem_insert_iff]
    by_cases same : u = id <;> simp [same, after]
  refine ⟨more ▸ finite.insert id, ?_⟩
  rw [more, Set.ncard_insert_of_notMem absent finite]
  rfl

theorem counts_end (finite : (counted task).Finite) {id : Uuid} {next : Task}
    (before : (task id).isCounted = true) (after : next.isCounted = false) :
    Counts task (Function.update task id next) (-1) := by
  have less : counted (Function.update task id next) = counted task \ {id} := by
    ext u
    rw [mem_counted_update, Set.mem_sdiff, Set.mem_singleton_iff]
    by_cases same : u = id <;> simp [same, after]
  refine ⟨less ▸ finite.sdiff, ?_⟩
  have one := Set.ncard_sdiff_singleton_add_one (a := id) (s := counted task) before finite
  rw [less]
  omega

theorem counts_keep (finite : (counted task).Finite) {id : Uuid} {next : Task}
    (same : next.isCounted = (task id).isCounted) : Counts task (Function.update task id next) 0 := by
  refine .of_same finite (Set.ext fun u => ?_)
  rw [mem_counted_update]
  split
  · rename_i here
    rw [same, here]
    rfl
  · rfl

end Task

namespace Service

open Gateway.Task (Counts counts_begin counts_end counts_keep)

variable {v w : Service}

def Goes (v w : Service) : Prop :=
  ∃ events opened, v.engine.Reports w.engine events opened [] ∧ ((Task.counted v.task).Finite → Counts v.task w.task opened)

theorem goes_of_engine {engine : Engine} {events : List Envelope} (reports : v.engine.Reports engine events 0 []) :
    v.Goes { v with engine } :=
  ⟨events, 0, reports, fun finite => .of_same finite rfl⟩

theorem goes_of_request {engine : Engine} {events : List Envelope} (reports : v.engine.Reports engine events 0 [])
    {id : Uuid} {task : Task} (same : task.isCounted = (v.task id).isCounted) :
    v.Goes ({ v with engine }.setTask id task) :=
  ⟨events, 0, reports, fun finite => counts_keep finite same⟩

theorem goes_startSession (v : Service) {id : Uuid} (unused : v.task id = .unused) (config : SessionConfig) (now : Nat) :
    v.Goes (v.startSession id config now) := by
  obtain ⟨events, reports⟩ := v.engine.reports_openSession ⟨id⟩
  refine ⟨events, _, reports, fun finite => ?_⟩
  have before : (v.task id).isCounted = false := congrArg Task.isCounted unused
  unfold startSession
  dsimp only
  cases (v.engine.openSession ⟨id⟩).1 with
  | some line => exact counts_begin finite before rfl
  | none => exact counts_keep finite before.symm

theorem goes_complete (v : Service) {id : Uuid} (task : (v.task id).isCounted = true) (line : Nat) (step : SessionStep) :
    v.Goes (v.complete id line step) := by
  obtain ⟨first, applied⟩ := v.engine.reports_applyStep ⟨id⟩ line step
  unfold complete
  dsimp only
  split
  · obtain ⟨last, closed⟩ := (v.engine.applyStep ⟨id⟩ line step).reports_closeSession ⟨id⟩ line step.session
    refine ⟨first ++ last, 0 + -1, applied.trans closed, fun finite => ?_⟩
    exact counts_end finite task rfl
  · exact goes_of_request applied task.symm

theorem goes_moveSession (v : Service) (id : Uuid) (move : SessionMove) : v.Goes (v.moveSession id move) := by
  have moved := v.moved id move
  generalize v.moveSession id move = w, v.sessionTurn? id move = turn? at *
  cases moved with
  | nothing => exact goes_of_engine (.refl _)
  | starts unused config now => exact v.goes_startSession unused config now
  | @waits n _ _ _ event task =>
    exact goes_of_request (v.engine.reports_noticed n event) (congrArg Task.isCounted task).symm
  | completes task => exact v.goes_complete (congrArg Task.isCounted task) _ _
  | @fails n _ task =>
    -- the end of a session that breaks off is not measured
    have hung : v.engine.Reports (v.engine.modifyLine n Line.hangUp) [] 0 [] := .of_same rfl rfl
    have counts : Task.failed.isCounted = (v.task id).isCounted := (congrArg Task.isCounted task).symm
    exact goes_of_request hung counts

theorem goes_moveRequest (v : Service) (id : Uuid) (move : RequestMove) : v.Goes (v.moveRequest id move) := by
  have moved := v.requestMoved id move
  generalize v.requestEffect id move = effect, v.moveRequest id move = w at *
  cases moved with
  | nothing => exact goes_of_engine (.refl _)
  | @begins method uri headers n unused taken =>
    obtain ⟨events, reports⟩ := v.engine.reports_handleRequest ⟨id⟩ method uri headers
    exact goes_of_request reports (congrArg Task.isCounted unused).symm
  | @answered method uri headers =>
    obtain ⟨events, reports⟩ := v.engine.reports_handleRequest ⟨id⟩ method uri headers
    exact goes_of_engine reports
  | bodyPart _ data =>
    obtain ⟨events, reports⟩ := v.engine.reports_receiveBody ⟨id⟩ data
    exact goes_of_engine reports
  | bodyEnd asked =>
    obtain ⟨events, reports⟩ := v.engine.reports_receiveBodyEnd ⟨id⟩
    exact goes_of_request reports (congrArg Task.isCounted asked).symm
  | bodyLost asked => exact goes_of_request (.refl _) (congrArg Task.isCounted asked).symm
  | pollHead | hangUp => exact goes_of_engine (.of_same rfl rfl)
  | @drains n | @pollBody n =>
    obtain ⟨events, reports⟩ := v.engine.reports_pollBody ⟨id⟩ n
    exact goes_of_engine reports
  | @letGo n _ asked =>
    have dropped : v.engine.Reports (v.engine.dropBody n) [] 0 [] := .of_same rfl rfl
    obtain ⟨events, reports⟩ := (v.engine.dropBody n).reports_abandonRequest ⟨id⟩
    exact goes_of_request (dropped.trans reports) (congrArg Task.isCounted asked).symm

end Service

namespace Deployment

variable {d : Deployment}

def sent (d : Deployment) : DeploymentMove → List SendStatus
  | .call call => d.server.outcomes call
  | _ => []

def attempts (d : Deployment) : DeploymentMove → Nat
  | .call call => d.server.attempts call
  | _ => 0

/-- The outcomes of all that the host sends in a run, each as it is when its turn has come. -/
def outcomes (d : Deployment) : List DeploymentMove → List SendStatus
  | [] => []
  | move :: rest => d.sent move ++ (d.step move).outcomes rest

def sendings (d : Deployment) : List DeploymentMove → Nat
  | [] => 0
  | move :: rest => d.attempts move + (d.step move).sendings rest

theorem length_outcomes (d : Deployment) (moves : List DeploymentMove) :
    (d.outcomes moves).length = d.sendings moves := by
  induction moves generalizing d with
  | nil => rfl
  | cons move rest ih =>
    have one : (d.sent move).length = d.attempts move := by
      cases move with
      | call call => exact d.server.length_outcomes call
      | _ => rfl
    rw [outcomes, sendings, List.length_append, one, ih]

def sessions (d : Deployment) : Set Uuid := {u | (d.task u).isSession = true}

def broken (d : Deployment) : Set Uuid := {u | d.task u = .failed}

theorem counted_eq (d : Deployment) : Task.counted d.task = d.sessions ∪ d.broken := by
  ext u
  simp [Task.counted, Task.isCounted, sessions, broken]

theorem not_mem_broken {d : Deployment} {u : Uuid} (runs : u ∈ d.sessions) : u ∉ d.broken := by
  intro failed
  have still : (d.task u).isSession = true := runs
  rw [show d.task u = .failed from failed] at still
  cases still

/-- The measurements account for all events, for the sessions that were begun, and for the frames that were sent. -/
structure Measured (d : Deployment) (sent : List SendStatus) : Prop where
  wired : d.server.engine.connections.Wired
  finite : (Task.counted d.task).Finite
  log : Balanced d.server.engine.log d.history (Task.counted d.task).ncard sent

theorem measured_create (config : ServerConfig) : (create config).Measured [] := by
  have none : Task.counted (create config).task = ∅ := Set.eq_empty_of_forall_notMem fun _ => nofun
  refine ⟨ConnectionRegistry.wired_empty _, none ▸ Set.finite_empty, ?_⟩
  rw [none, Set.ncard_empty]
  exact .nil

theorem Measured.goes {sent more : List SendStatus} (measured : d.Measured sent) {d' : Deployment}
    {events : List Envelope} {opened : Int} (wired : d'.server.engine.connections.Wired)
    (reports : d.server.engine.Reports d'.server.engine events opened more) (pulled : d'.pulled = d.pulled)
    (counts : Task.Counts d.task d'.task opened) : d'.Measured (sent ++ more) := by
  obtain ⟨entries, log, balanced⟩ := reports.log
  refine ⟨wired, counts.finite, ?_⟩
  rw [log, history_extend pulled reports.queue, counts.count]
  exact measured.log.append balanced

theorem Measured.taken {sent : List SendStatus} (measured : d.Measured sent) {d' : Deployment}
    (connections : d'.server.engine.connections = d.server.engine.connections)
    (log : d'.server.engine.log = d.server.engine.log) (history : d'.history = d.history)
    (task : d'.task = d.task) : d'.Measured sent := by
  refine ⟨connections ▸ measured.wired, task ▸ measured.finite, ?_⟩
  rw [log, history, task]
  exact measured.log

theorem Measured.step {sent : List SendStatus} (measured : d.Measured sent) (move : DeploymentMove) :
    (d.step move).Measured (sent ++ d.sent move) := by
  cases move with
  | call call =>
    obtain ⟨events, answers, reports, outcomes⟩ := ServerCall.reports_apply d.server call
    rw [outcomes measured.wired] at reports
    exact measured.goes (ServerCall.leaves_apply measured.wired call).wired reports rfl (.of_same measured.finite rfl)
  | session id move =>
    obtain ⟨events, opened, reports, counts⟩ := d.service.goes_moveSession id move
    exact measured.goes (d.service.continues_moveSession id move measured.wired).1 reports
      (d.service.pulled_moveSession id move) (counts measured.finite)
  | request id move =>
    obtain ⟨events, opened, reports, counts⟩ := d.service.goes_moveRequest id move
    have same := d.service.connections_moveRequest id move
    refine measured.goes ?_ reports (d.service.pulled_moveRequest id move) (counts measured.finite)
    exact same.symm ▸ measured.wired
  | pop =>
    exact (List.append_nil sent).symm ▸ measured.taken rfl rfl d.service.history_pop rfl
  | drain count =>
    exact (List.append_nil sent).symm ▸ measured.taken rfl rfl (d.service.history_drain count) rfl

theorem Measured.run {sent : List SendStatus} (measured : d.Measured sent) (moves : List DeploymentMove) :
    (d.run moves).Measured (sent ++ d.outcomes moves) := by
  induction moves generalizing d sent with
  | nil => exact (List.append_nil sent).symm ▸ measured
  | cons move rest ih =>
    rw [outcomes, ← List.append_assoc]
    exact ih (measured.step move)

/-- For every run of a server with its tasks, measured from its start:

    * under each kind as many events are counted as the host has taken and still will take, and as many payloads
      as cut as were;
    * under all verbs but that for connections, as many requests as the host was ever told of;
    * as many connections are open as sessions run, and those that broke off in addition: so the measurement is
      right just if none did;
    * under each outcome as many frames are counted as had it, and in all as many as were sent: one for each call
      that sends, and for each broadcast of a message one for each connection that is live. -/
theorem measurements (config : ServerConfig) (moves : List DeploymentMove) :
    let d := (create config).run moves
    let log := d.server.engine.log
    (∀ kind, (Series.eventsQueued kind).total log =
      (d.pulled.countP (·.kind = kind) + d.server.engine.queue.events.countP (·.kind = kind) : Nat)) ∧
    Series.payloadTruncations.total log =
      (d.pulled.countP (·.truncated) + d.server.engine.queue.events.countP (·.truncated) : Nat) ∧
    (Series.requestLabels.map fun verb => (Series.requests verb).total log).sum =
      (d.history.countP (·.kind = .requestStart) : Nat) ∧
    (d.sessions.Finite ∧ d.broken.Finite ∧
      Series.connectionsOpen.total log = d.sessions.ncard + d.broken.ncard ∧
      (Series.connectionsOpen.total log = d.sessions.ncard ↔ ∀ u, d.task u ≠ .failed)) ∧
    (∀ status, (Series.messagesSent status).total log = (((create config).outcomes moves).count status : Nat)) ∧
    (SendStatus.all.map fun status => (Series.messagesSent status).total log).sum =
      ((create config).sendings moves : Nat) := by
  intro d log
  have measured : d.Measured ((create config).outcomes moves) := (measured_create config).run moves
  obtain ⟨queued, requests, opened, sent⟩ := measured.log
  have history : d.history = d.pulled ++ d.server.engine.queue.events := rfl
  have finite : (d.sessions ∪ d.broken).Finite := d.counted_eq ▸ measured.finite
  obtain ⟨run, broke⟩ := Set.finite_union.mp finite
  have total : Series.connectionsOpen.total log = d.sessions.ncard + d.broken.ncard := by
    rw [Series.total_connectionsOpen, opened, d.counted_eq,
      Set.ncard_union_eq (Set.disjoint_left.mpr fun _ => not_mem_broken) run broke]
    rfl
  refine ⟨fun kind => ?_, ?_, ?_, ⟨run, broke, total, ?_⟩, fun status => ?_, ?_⟩
  · rw [Series.total_eventsQueued, queued, List.countP_map, history, List.countP_append]
    rfl
  · rw [Series.total_payloadTruncations, queued, List.countP_map, history, List.countP_append]
    rfl
  · rw [Series.sum_requests, requests]
  · have whole : (∀ u, d.task u ≠ .failed) ↔ d.broken.ncard = 0 := by
      rw [Set.ncard_eq_zero broke, Set.eq_empty_iff_forall_notMem]
      rfl
    rw [total, whole]
    omega
  · rw [Series.total_messagesSent, sent]
  · rw [Series.sum_messagesSent, sent, length_outcomes]

theorem task_session_of_ne (d : Deployment) {id u : Uuid} (other : u ≠ id) (move : SessionMove) :
    (d.step (.session id move)).task u = d.task u :=
  d.service.task_moveSession_of_ne other move

/-- A session under the settings of its server that breaks off as soon as it has begun. None runs, and one is counted. -/
theorem broken_counted :
    let u : Uuid := .fresh 0 1
    let config : ServerConfig := { idleTimeoutSecs := 2 ^ 63 }
    let own : SessionConfig := { idleTimeout := some (2 ^ 63 * 1000) }
    let moves : List DeploymentMove := [.session u (.start own 0), .session u .fail]
    let d := (create config).run moves
    config.session? true = some own ∧
    d.sessions = ∅ ∧ Series.connectionsOpen.total d.server.engine.log = 1 ∧
    ¬∀ (config : ServerConfig) (moves : List DeploymentMove), let d := (create config).run moves
      Series.connectionsOpen.total d.server.engine.log = d.sessions.ncard := by
  intro u config own moves d
  have counted : Series.connectionsOpen.total d.server.engine.log = 1 := by decide
  have none : d.sessions = ∅ := by
    refine Set.eq_empty_of_forall_notMem fun other => ?_
    by_cases same : other = u
    · have gone : d.task u = .failed := by decide
      show ¬(d.task other).isSession = true
      rw [same, gone]
      decide
    · have idle : d.task other = .unused := by
        show (((create config).step (.session u (.start own 0))).step (.session u .fail)).task other = .unused
        rw [task_session_of_ne _ same, task_session_of_ne _ same]
        rfl
      show ¬(d.task other).isSession = true
      rw [idle]
      decide
  refine ⟨by decide, none, counted, fun all => ?_⟩
  have right : Series.connectionsOpen.total d.server.engine.log = d.sessions.ncard := all config moves
  rw [counted, none, Set.ncard_empty] at right
  cases right

end Deployment

end Gateway
