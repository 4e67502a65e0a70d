import Gateway.Proofs.Server.Deployment

namespace Gateway

inductive Subject where
  | server
  | connection (id : ConnectionId)
  | request (id : RequestId)
  deriving DecidableEq, Repr

inductive Role where
  | connection
  | request
  deriving DecidableEq, Repr

def Task.role? : Task → Option Role
  | unused | refused => none
  | session _ _ _ | ended | failed => some .connection
  | request _ _ _ => some .request

namespace Subject

def text : Subject → String
  | server => serverId
  | connection id => id.text
  | request id => id.text

def kinds : Subject → List EventKind
  | server => [.listening, .shutDown, .error]
  | connection _ => [.opened, .message, .closed]
  | request _ => [.requestStart, .requestData, .requestEnd, .requestAbort, .writable]

def uuid? : Subject → Option Uuid
  | server => none
  | connection id => some id.uuid
  | request id => some id.uuid

def Told (subject : Subject) (x : Envelope) : Prop := x.id = subject.text ∧ x.kind ∈ subject.kinds

theorem told_cut (subject : Subject) (e : Engine) {kind : EventKind} (fits : kind ∈ subject.kinds) (payload : Bytes) :
    subject.Told (e.cut kind subject.text payload) := ⟨rfl, fits⟩

theorem Told.perhaps {P : Prop} [Decidable P] {subject : Subject} {x : Envelope} (told : subject.Told x) :
    ∀ y ∈ if P then [x] else [], subject.Told y := by
  split
  · exact List.forall_mem_singleton.mpr told
  · exact List.forall_mem_nil _

def HeldBy (task : Uuid → Task) : Subject → Prop
  | server => True
  | connection id => (task id.uuid).role? = some .connection
  | request id => (task id.uuid).role? = some .request

variable {task : Uuid → Task} {subject other : Subject}

theorem HeldBy.eq_of_text (held : subject.HeldBy task) (also : other.HeldBy task)
    (same : subject.text = other.text) : subject = other := by
  have apart {u v : Uuid} (connection : (task u).role? = some .connection) (request : (task v).role? = some .request) :
      u.text ≠ v.text := by
    intro same
    rw [Uuid.text_inj] at same
    subst same
    cases connection.symm.trans request
  cases subject with
  | server =>
    cases other with
    | server => rfl
    | connection id | request id => exact absurd same (Uuid.serverId_ne_text id.uuid)
  | connection id =>
    cases other with
    | server => exact absurd same.symm (Uuid.serverId_ne_text id.uuid)
    | connection id => exact congrArg (connection ⟨·⟩) (Uuid.text_injective same)
    | request id => exact absurd same (apart held also)
  | request id =>
    cases other with
    | server => exact absurd same.symm (Uuid.serverId_ne_text id.uuid)
    | connection id => exact absurd same.symm (apart also held)
    | request id => exact congrArg (request ⟨·⟩) (Uuid.text_injective same)

end Subject

/-! The tasks. -/

structure Standing.Owned (s : Standing) : Prop where
  entry : s.entry ≠ none → s.task.role? = some .connection
  request : s.inFlight = true → s.task.role? = some .request

theorem Effect.role?_task {s : Standing} {effect : Effect} (possible : effect.Possible s) {role : Role}
    (before : s.task.role? = some role) : (effect.task s).role? = some role := by
  have used : s.task ≠ .unused := by
    intro unused
    rw [unused] at before
    cases before
  cases effect with
  | nothing | stopped | purged | bodyPart | drained | answered => exact before
  | refused => exact absurd possible used
  | opened | begun => exact absurd possible.1 used
  | waits line session since event =>
    rw [show s.task = .session line session none from possible] at before
    exact before
  | stepped line step =>
    obtain ⟨session, writing, task⟩ := possible
    rw [task] at before
    simp only [Effect.task]
    split <;> exact before
  | failed line =>
    obtain ⟨session, task, _⟩ := possible
    rw [task] at before
    exact before
  | bodyEnd | bodyLost | letGo =>
    obtain ⟨n, flag, task⟩ := possible
    rw [task] at before
    simp only [Effect.task, task]
    exact before

theorem Standing.Owned.after {s : Standing} (owned : s.Owned) {effect : Effect} (possible : effect.Possible s)
    (id : Uuid) (limit : Nat) : (s.after id limit effect).Owned := by
  have kept {role : Role} (before : s.task.role? = some role) : (effect.task s).role? = some role :=
    Effect.role?_task possible before
  cases effect with
  | opened line session =>
    refine ⟨fun _ => rfl, fun inFlight => ?_⟩
    exact kept (owned.request inFlight)
  | begun n =>
    refine ⟨fun entered => kept (owned.entry entered), fun _ => rfl⟩
  | stepped line step =>
    refine ⟨fun entered => kept (owned.entry fun none => entered ?_), fun inFlight => kept (owned.request inFlight)⟩
    simp only [Standing.after, Effect.entry, none, Option.map_none, ite_self]
  | stopped payload =>
    refine ⟨fun entered => kept (owned.entry fun none => entered ?_), fun inFlight => kept (owned.request inFlight)⟩
    simp only [Standing.after, Effect.entry, none, Option.map_none]
  | purged =>
    refine ⟨fun entered => kept (owned.entry fun none => entered ?_), fun inFlight => kept (owned.request inFlight)⟩
    simp only [Standing.after, Effect.entry, none, Option.filter_none]
  | letGo | answered => exact ⟨fun entered => kept (owned.entry entered), fun inFlight => by cases inFlight⟩
  | nothing | refused | waits | failed | bodyPart | bodyEnd | bodyLost | drained =>
    exact ⟨fun entered => kept (owned.entry entered), fun inFlight => kept (owned.request inFlight)⟩

/-! The events of a move. -/

namespace Service

variable {v w : Service}

def Tells (v w : Service) (subject : Subject) : Prop :=
  ∃ events, w.engine.queue = v.engine.queue.extend events ∧ ∀ x ∈ events, subject.Told x ∧ subject.HeldBy w.task

theorem Tells.of_events {subject : Subject} {events : List Envelope}
    (queue : w.engine.queue = v.engine.queue.extend events) (told : ∀ x ∈ events, subject.Told x)
    (held : subject.HeldBy w.task) : v.Tells w subject :=
  ⟨events, queue, fun x within => ⟨told x within, held⟩⟩

theorem Tells.of_quiet {subject : Subject} (queue : w.engine.queue = v.engine.queue) : v.Tells w subject :=
  ⟨[], queue.trans (EventQueue.extend_nil _).symm, List.forall_mem_nil _⟩

theorem tells_startSession (v : Service) (id : Uuid) (config : SessionConfig) (now : Nat) :
    v.Tells (v.startSession id config now) (.connection ⟨id⟩) := by
  by_cases taken : v.engine.takes ⟨id⟩
  · obtain ⟨line, answer, queue, -⟩ := v.engine.openSession_taken ⟨id⟩ taken
    have told : (Subject.connection ⟨id⟩).Told (v.engine.cut .opened (ConnectionId.text ⟨id⟩) []) :=
      Subject.told_cut _ v.engine (by simp [Subject.kinds]) []
    refine .of_events queue (List.forall_mem_singleton.mpr told) ?_
    simp [Subject.HeldBy, startSession, setTask, answer, Task.role?]
  · exact .of_quiet (v.engine.openSession_refused ⟨id⟩ taken).2.1

theorem tells_complete (v : Service) (id : Uuid) (line : Nat) (step : SessionStep) :
    v.Tells (v.complete id line step) (.connection ⟨id⟩) := by
  have told := Subject.told_cut (.connection ⟨id⟩)
  have held : (Subject.connection ⟨id⟩).HeldBy (v.complete id line step).task := by
    unfold complete
    dsimp only
    split <;> simp [Subject.HeldBy, setTask, Task.role?]
  have applied := v.engine.queue_applyStep ⟨id⟩ line step
  have message : ∀ x ∈ step.message.toList.map (v.engine.cut .message (ConnectionId.text ⟨id⟩)),
      (Subject.connection ⟨id⟩).Told x := by
    rw [List.forall_mem_map]
    exact fun data _ => told _ (by simp [Subject.kinds]) data
  cases finished : step.isOver with
  | false =>
    refine .of_events ?_ message held
    simp only [complete, finished, Bool.false_eq_true, if_false]
    exact applied
  | true =>
    have closed := (v.engine.applyStep ⟨id⟩ line step).queue_closeSession ⟨id⟩ line step.session
    rw [applied, EventQueue.extend_extend] at closed
    have whole : (v.complete id line step).engine =
        (v.engine.applyStep ⟨id⟩ line step).closeSession ⟨id⟩ line step.session := by
      simp only [complete, finished, if_true]
      rfl
    rw [← whole] at closed
    exact .of_events closed (List.forall_mem_append.mpr ⟨message, (told _ (by simp [Subject.kinds]) _).perhaps⟩) held

theorem tells_moveSession (v : Service) (id : Uuid) (move : SessionMove) :
    v.Tells (v.moveSession id move) (.connection ⟨id⟩) := by
  have moved := v.moved id move
  generalize v.moveSession id move = w, v.sessionTurn? id move = turn? at *
  cases moved with
  | nothing | fails => exact .of_quiet rfl
  | starts _ config now => exact v.tells_startSession _ config now
  | @waits _ _ _ _ event =>
    have queue (n : Nat) : (v.engine.noticed n event).queue = v.engine.queue := by cases event <;> rfl
    exact .of_quiet (queue _)
  | completes => exact v.tells_complete _ _ _

theorem tells_moveRequest (v : Service) (id : Uuid) (move : RequestMove) :
    v.Tells (v.moveRequest id move) (.request ⟨id⟩) := by
  have told := Subject.told_cut (.request ⟨id⟩)
  have held {task : Task} (request : task.role? = some .request) (v : Service) :
      (Subject.request ⟨id⟩).HeldBy (v.setTask id task).task := by
    simpa [Subject.HeldBy, setTask] using request
  have moved := v.requestMoved id move
  generalize v.requestEffect id move = effect, v.moveRequest id move = w at *
  cases moved with
  | nothing | pollHead | hangUp => exact .of_quiet rfl
  | @begins method uri headers n _ taken =>
    rcases v.engine.handleRequest_cases ⟨id⟩ method uri headers with ⟨_, _, queue, _⟩ | ⟨other, _⟩
    · exact .of_events queue (List.forall_mem_singleton.mpr (told _ (by simp [Subject.kinds]) _)) (held rfl _)
    · exact absurd taken (other n)
  | @answered method uri headers other =>
    rcases v.engine.handleRequest_cases ⟨id⟩ method uri headers with ⟨⟨n, taken⟩, _⟩ | ⟨_, queue, _⟩
    · exact absurd taken (other n)
    · exact .of_quiet queue
  | bodyPart asked data =>
    exact .of_events (v.engine.queue_receiveBody ⟨id⟩ data) (told _ (by simp [Subject.kinds]) data).perhaps
      (congrArg Task.role? asked)
  | bodyEnd =>
    exact .of_events (v.engine.queue_receiveBodyEnd ⟨id⟩) (told _ (by simp [Subject.kinds]) []).perhaps (held rfl _)
  | bodyLost => exact .of_quiet rfl
  | @drains n written _ asked =>
    refine .of_events (v.engine.queue_pollBody ⟨id⟩ n) ?_ (congrArg Task.role? asked)
    rw [List.forall_mem_map]
    exact fun written _ => told _ (by simp [Subject.kinds]) _
  | @pollBody n silent =>
    have queue := v.engine.queue_pollBody ⟨id⟩ n
    rw [silent] at queue
    exact .of_quiet (queue.trans (EventQueue.extend_nil _))
  | @letGo n =>
    exact .of_events ((v.engine.dropBody n).queue_abandonRequest ⟨id⟩) (told _ (by simp [Subject.kinds]) []).perhaps
      (held rfl _)

/-! What every run keeps. -/

def Owned (v : Service) : Prop := ∀ u, (v.standing u).Owned

theorem Owned.step (owned : v.Owned) (distinct : v.engine.connections.Distinct) (move : Move) :
    (v.step move).Owned := by
  intro u
  rw [v.standing_step u move distinct]
  exact (owned u).after (v.possible_effect u move) u v.limit

theorem Owned.run (owned : v.Owned) (distinct : v.engine.connections.Distinct) (moves : List Move) :
    (v.run moves).Owned := by
  induction moves generalizing v with
  | nil => exact owned
  | cons move rest ih => exact ih (owned.step distinct move) ((v.keeps_step move).distinct distinct)

theorem role?_step (distinct : v.engine.connections.Distinct) (move : Move) {u : Uuid} {role : Role}
    (before : (v.task u).role? = some role) : ((v.step move).task u).role? = some role := by
  rw [v.task_step u move distinct]
  exact Effect.role?_task (v.possible_effect u move) before

end Service

namespace Deployment

variable {d : Deployment}

theorem standing_call (d : Deployment) (call : ServerCall) (settled : d.Settled) : ∃ moves : List HostMove, ∀ u,
    (d.step (.call call)).service.standing u = (d.service.run (moves.map .host)).standing u := by
  have texts (id : ConnectionId) (data : Bytes) : ∃ moves : List HostMove, ∀ u,
      Service.standing ⟨(d.server.sendText id data).2.engine, d.task, d.pulled⟩ u =
        (d.service.run (moves.map .host)).standing u := by
    unfold Server.sendText
    split
    · exact ⟨[.send id _], fun _ => rfl⟩
    · exact ⟨[], fun _ => rfl⟩
  have broadcasts (data : Bytes) : ∃ moves : List HostMove, ∀ u,
      Service.standing ⟨(d.server.broadcastText data).2.engine, d.task, d.pulled⟩ u =
        (d.service.run (moves.map .host)).standing u := by
    unfold Server.broadcastText
    split
    · exact ⟨[.broadcast _], fun _ => rfl⟩
    · exact ⟨[], fun _ => rfl⟩
  cases call with
  | start requested bound =>
    by_cases idle : d.server.state = .idle
    · cases bound with
      | ok port =>
        rw [step_start idle]
        exact ⟨[.reopen, .tell .listening (Text.bytes (Text.Decimal.text port))], fun _ => rfl⟩
      | error fault =>
        rw [step, ServerCall.apply, Server.startListening_failed idle]
        exact ⟨[.tell .error (d.server.bindMessage requested fault)], fun _ => rfl⟩
    · rw [step, ServerCall.apply, Server.startListening_busy idle]
      exact ⟨[], fun _ => rfl⟩
  | stop =>
    by_cases listening : d.server.state = .listening
    · rw [step, ServerCall.apply, Server.stopListening_running listening (settled.agrees.mp listening)]
      exact ⟨[.closeConnections Server.stopping, .abortAll .serviceUnavailable, .tell .shutDown []], fun _ => rfl⟩
    · rw [step, ServerCall.apply, Server.stopListening_idle listening]
      exact ⟨[], fun _ => rfl⟩
  | addRoute verb pattern => exact ⟨[.addRoute verb pattern], fun _ => rfl⟩
  | sendText id data | sendCompressedText id data => exact texts id data
  | sendBinary id data => exact ⟨[.send id (.binary data)], fun _ => rfl⟩
  | broadcastText data | broadcastCompressedText data => exact broadcasts data
  | broadcastBinary data => exact ⟨[.broadcast (.binary data)], fun _ => rfl⟩
  | disconnect id => exact ⟨[.disconnect id (.of .normal "")], fun _ => rfl⟩
  | purge => exact ⟨[.purge], fun _ => rfl⟩
  | setStatus id line => exact ⟨[.setStatus id line], fun _ => rfl⟩
  | setHeader id name value => exact ⟨[.setHeader id name value], fun _ => rfl⟩
  | write id data => exact ⟨[.write id data], fun _ => rfl⟩
  | tryEnd id data totalSize => exact ⟨[.tryEnd id data totalSize], fun _ => rfl⟩
  | finish id data => exact ⟨[.finish id data], fun _ => rfl⟩

theorem owned_step (settled : d.Settled) (owned : d.service.Owned) (move : DeploymentMove) :
    (d.step move).service.Owned := by
  have moved (move : Move) : (d.service.step move).Owned := owned.step settled.distinct move
  cases move with
  | call call =>
    obtain ⟨moves, same⟩ := d.standing_call call settled
    intro u
    rw [same u]
    exact owned.run settled.distinct _ u
  | session id move => exact moved (.session id move)
  | request id move => exact moved (.request id move)
  | pop => exact moved .pop
  | drain count => exact moved (.drain count)

theorem heldBy_step (settled : d.Settled) {subject : Subject} (held : subject.HeldBy d.task) (move : DeploymentMove) :
    subject.HeldBy (d.step move).task := by
  have kept {u : Uuid} {role : Role} (before : (d.task u).role? = some role) :
      ((d.step move).task u).role? = some role := by
    cases move with
    | call call => exact before
    | session id move => exact d.service.role?_step settled.distinct (.session id move) before
    | request id move => exact d.service.role?_step settled.distinct (.request id move) before
    | pop => exact before
    | drain count => exact before
  cases subject with
  | server => trivial
  | connection id | request id => exact kept held

/-! The log of a run. -/

def news (d : Deployment) (move : DeploymentMove) : List Envelope := (d.step move).history.drop d.history.length

/-- What the events that a move queues are about: the one whose work it is, and where the server closes its connections,
    each of these and the server. -/
def subjects (d : Deployment) (move : DeploymentMove) : List Subject :=
  match move with
  | .session id _ => (d.news move).map fun _ => .connection ⟨id⟩
  | .request id _ => (d.news move).map fun _ => .request ⟨id⟩
  | .call .stop =>
    if d.server.state = .listening then
      (d.server.engine.connections.shutDown Server.stopping).1.map .connection ++ [.server]
    else []
  | .call _ | .pop | .drain _ => (d.news move).map fun _ => .server

def log (d : Deployment) : List DeploymentMove → List (Subject × Envelope)
  | [] => []
  | move :: rest => (d.subjects move).zip (d.news move) ++ (d.step move).log rest

structure Accounts (d : Deployment) (move : DeploymentMove) : Prop where
  history : (d.step move).history = d.history ++ d.news move
  length : (d.subjects move).length = (d.news move).length
  told : ∀ entry ∈ (d.subjects move).zip (d.news move), entry.1.Told entry.2 ∧ entry.1.HeldBy (d.step move).task

theorem news_eq {move : DeploymentMove} {events : List Envelope}
    (history : (d.step move).history = d.history ++ events) : d.news move = events := by
  rw [news, history, List.drop_left]

theorem accounts_of_one {move : DeploymentMove} {subject : Subject} {events : List Envelope}
    (history : (d.step move).history = d.history ++ events)
    (told : ∀ x ∈ events, subject.Told x ∧ subject.HeldBy (d.step move).task)
    (subjects : d.subjects move = (d.news move).map fun _ => subject) : d.Accounts move := by
  have news := news_eq history
  refine ⟨by rw [history, news], by rw [subjects, List.length_map], fun entry within => ?_⟩
  obtain ⟨first, second⟩ := List.of_mem_zip within
  rw [subjects, List.mem_map] at first
  obtain ⟨_, -, same⟩ := first
  rw [news] at second
  exact same ▸ told _ second

theorem accounts_of_tells {move : DeploymentMove} {subject : Subject} {w : Service} (tells : d.service.Tells w subject)
    (pulled : w.pulled = d.pulled) (after : d.step move = d.resume w)
    (subjects : d.subjects move = (d.news move).map fun _ => subject) : d.Accounts move := by
  obtain ⟨events, queue, told⟩ := tells
  rw [show w.task = (d.step move).task by rw [after]; rfl] at told
  exact accounts_of_one (after ▸ history_extend pulled queue) told subjects

theorem accounts_stop (settled : d.Settled) (owned : d.service.Owned) (listening : d.server.state = .listening) :
    d.Accounts (.call .stop) := by
  have history := history_stop settled listening
  have news := news_eq history
  have subjects : d.subjects (.call .stop) =
      (d.server.engine.connections.shutDown Server.stopping).1.map .connection ++ [.server] := if_pos listening
  have closed : ∀ id ∈ (d.server.engine.connections.shutDown Server.stopping).1,
      (Subject.connection id).HeldBy d.task := by
    intro id within
    have live := (ConnectionRegistry.mem_shutDown settled.distinct _ id).mp within
    refine (owned id.uuid).entry fun absent => ?_
    rw [ConnectionRegistry.liveLine?_eq, show d.server.engine.connections.find? id = none from absent] at live
    cases live
  refine ⟨by rw [history, news], ?_, ?_⟩
  · rw [subjects, news]
    simp only [List.length_append, List.length_map, List.length_singleton]
  · rw [subjects, news]
    generalize (d.server.engine.connections.shutDown Server.stopping).1 = ids at closed ⊢
    intro entry within
    rw [List.zip_append (by simp only [List.length_map]), List.mem_append, List.zip_map', List.mem_map] at within
    rcases within with ⟨id, listed, rfl⟩ | last
    · exact ⟨Subject.told_cut (.connection id) _ (by simp [Subject.kinds]) _, closed id listed⟩
    · rw [List.mem_singleton.mp last]
      exact ⟨Subject.told_cut .server _ (by simp [Subject.kinds]) _, trivial⟩

theorem accounts (settled : d.Settled) (owned : d.service.Owned) (move : DeploymentMove) : d.Accounts move := by
  have silent {move : DeploymentMove} (history : (d.step move).history = d.history ++ [])
      (subjects : d.subjects move = (d.news move).map fun _ => .server) : d.Accounts move :=
    accounts_of_one history (List.forall_mem_nil _) subjects
  have ofServer {move : DeploymentMove} {kind : EventKind} (fits : kind ∈ Subject.server.kinds) {payload : Bytes}
      (history : (d.step move).history = d.history ++ [d.server.engine.cut kind serverId payload])
      (subjects : d.subjects move = (d.news move).map fun _ => .server) : d.Accounts move :=
    accounts_of_one history (List.forall_mem_singleton.mpr ⟨Subject.told_cut .server _ fits payload, trivial⟩) subjects
  cases move with
  | session id move =>
    exact accounts_of_tells (d.service.tells_moveSession id move) (d.service.pulled_moveSession id move) rfl rfl
  | request id move =>
    exact accounts_of_tells (d.service.tells_moveRequest id move) (d.service.pulled_moveRequest id move) rfl rfl
  | pop => exact silent (d.service.history_pop.trans (List.append_nil _).symm) rfl
  | drain count => exact silent ((d.service.history_drain count).trans (List.append_nil _).symm) rfl
  | call call =>
    cases call with
    | start requested bound =>
      by_cases idle : d.server.state = .idle
      · cases bound with
        | ok port => exact ofServer (by decide) (history_start idle requested port) rfl
        | error fault =>
          have queue : (d.step (.call (.start requested (.error fault)))).server.engine.queue =
              d.server.engine.queue.extend
                [d.server.engine.cut .error serverId (d.server.bindMessage requested fault)] := by
            rw [step, ServerCall.apply, Server.startListening_failed idle]
            rfl
          exact ofServer (by decide) (history_extend rfl queue) rfl
      · refine silent ?_ rfl
        rw [step, ServerCall.apply, Server.startListening_busy idle, List.append_nil]
    | stop =>
      by_cases listening : d.server.state = .listening
      · exact accounts_stop settled owned listening
      · have history : (d.step (.call .stop)).history = d.history ++ [] := by
          rw [step, ServerCall.apply, Server.stopListening_idle listening, List.append_nil]
        refine silent history ?_
        rw [subjects, if_neg listening, news_eq history]
        rfl
    | _ =>
      refine silent (d.goes_plain ?_).history rfl
      trivial

theorem heldBy_run (settled : d.Settled) {subject : Subject} (held : subject.HeldBy d.task)
    (moves : List DeploymentMove) : subject.HeldBy (d.run moves).task := by
  induction moves generalizing d with
  | nil => exact held
  | cons move rest ih => exact ih (settled.step move) (heldBy_step settled held move)

theorem owned_run (settled : d.Settled) (owned : d.service.Owned) (moves : List DeploymentMove) :
    (d.run moves).service.Owned := by
  induction moves generalizing d with
  | nil => exact owned
  | cons move rest ih => exact ih (settled.step move) (owned_step settled owned move)

theorem owned_create (config : ServerConfig) : (create config).service.Owned :=
  fun _ => ⟨fun entered => absurd rfl entered, nofun⟩

/-- The log of a run has all its events, in order, and tells of each what it is about. -/
theorem log_run (settled : d.Settled) (owned : d.service.Owned) (moves : List DeploymentMove) :
    (d.run moves).history = d.history ++ (d.log moves).map Prod.snd ∧
      ∀ entry ∈ d.log moves, entry.1.Told entry.2 ∧ entry.1.HeldBy (d.run moves).task := by
  induction moves generalizing d with
  | nil => exact ⟨(List.append_nil _).symm, List.forall_mem_nil _⟩
  | cons move rest ih =>
    have accounts := accounts settled owned move
    obtain ⟨history, told⟩ := ih (settled.step move) (owned_step settled owned move)
    constructor
    · rw [log, List.map_append, List.map_snd_zip (Nat.le_of_eq accounts.length.symm), ← List.append_assoc,
        ← accounts.history]
      exact history
    · rw [log, List.forall_mem_append]
      refine ⟨fun entry within => ?_, told⟩
      obtain ⟨about, held⟩ := accounts.told entry within
      exact ⟨about, heldBy_run (settled.step move) held rest⟩

/-! The entries of a server. -/

/-- What a server has entered: its connections and the requests in flight. -/
def entries (d : Deployment) : List Subject :=
  d.server.engine.connections.entries.map (fun entry => .connection entry.1) ++
    d.server.engine.requests.records.map fun record => .request record.id

theorem connection_mem_entries {id : ConnectionId} :
    .connection id ∈ d.entries ↔ d.server.engine.connections.contains id = true := by
  simp [entries, ConnectionRegistry.contains, ConnectionRegistry.find?]

theorem request_mem_entries {id : RequestId} : .request id ∈ d.entries ↔ d.server.hasRequest id = true := by
  simp [entries, Server.hasRequest, RequestRegistry.has, RequestRegistry.find?]

theorem heldBy_of_mem_entries (owned : d.service.Owned) {entry : Subject} (listed : entry ∈ d.entries) :
    entry.HeldBy d.task := by
  cases entry with
  | server => trivial
  | connection id =>
    exact (owned id.uuid).entry (Option.isSome_iff_ne_none.mp (connection_mem_entries.mp listed))
  | request id => exact (owned id.uuid).request (request_mem_entries.mp listed)

theorem distinct_requests_step (settled : d.Settled) (distinct : d.server.engine.requests.Distinct)
    (move : DeploymentMove) : (d.step move).server.engine.requests.Distinct := by
  rcases d.step_cases move with ⟨events, goes⟩ | ⟨requested, port, rfl, idle⟩ | ⟨rfl, listening⟩
  · obtain ⟨calls, after⟩ := goes.works.requests
    rw [after]
    exact distinct.run calls
  · rw [step_start idle]
    exact distinct
  · rw [step, ServerCall.apply, Server.requests_stopListening listening (settled.agrees.mp listening)]
    exact distinct.call (.abortAll .serviceUnavailable)

theorem distinct_requests_run (settled : d.Settled) (distinct : d.server.engine.requests.Distinct)
    (moves : List DeploymentMove) : (d.run moves).server.engine.requests.Distinct := by
  induction moves generalizing d with
  | nil => exact distinct
  | cons move rest ih => exact ih (settled.step move) (distinct_requests_step settled distinct move)

theorem nodup_entries (settled : d.Settled) (distinct : d.server.engine.requests.Distinct) : d.entries.Nodup := by
  have connections := List.pairwise_map.mp settled.distinct
  have requests := List.pairwise_map.mp distinct
  refine List.nodup_append.mpr ⟨?_, ?_, ?_⟩
  · exact List.pairwise_map.mpr (connections.imp fun apart => mt Subject.connection.inj apart)
  · exact List.pairwise_map.mpr (requests.imp fun apart => mt Subject.request.inj apart)
  · intro first connection second request
    obtain ⟨_, -, rfl⟩ := List.mem_map.mp connection
    obtain ⟨_, -, rfl⟩ := List.mem_map.mp request
    nofun

/-- Where no entry but the subject goes by a text, what is found by the identifier is the subject. -/
theorem found_iff {subject : Subject} {x : Envelope} {id : Uuid} (carries : x.id = id.text)
    (only : ∀ entry ∈ d.entries, entry.text = x.id ↔ entry = subject) :
    (d.server.engine.connections.contains ⟨id⟩ = true ↔ subject = .connection ⟨id⟩ ∧ subject ∈ d.entries) ∧
      (d.server.hasRequest ⟨id⟩ = true ↔ subject = .request ⟨id⟩ ∧ subject ∈ d.entries) := by
  have found {entry : Subject} (text : entry.text = id.text) :
      entry ∈ d.entries ↔ subject = entry ∧ subject ∈ d.entries := by
    constructor
    · intro listed
      obtain rfl := (only entry listed).mp (text.trans carries.symm)
      exact ⟨rfl, listed⟩
    · rintro ⟨rfl, listed⟩
      exact listed
  rw [← connection_mem_entries, ← request_mem_entries]
  exact ⟨found rfl, found rfl⟩

/-- For every run of a server with its tasks, however it goes on after. The log has all the events that were ever
    queued, in order, and each carries the text of its subject and is of a kind that fits. And of all that the server
    has entered then, each once, none but that subject goes by this text. -/
theorem log_create (config : ServerConfig) (moves later : List DeploymentMove) :
    ((create config).run moves).history = ((create config).log moves).map Prod.snd ∧
    (((create config).run moves).run later).entries.Nodup ∧
    ∀ subject x, (subject, x) ∈ (create config).log moves → subject.Told x ∧
      ∀ entry ∈ (((create config).run moves).run later).entries, entry.text = x.id ↔ entry = subject := by
  have created := settled_create config
  have settled := created.run moves
  have owned := owned_run created (owned_create config) moves
  have distinct := distinct_requests_run created (RequestRegistry.distinct_empty _) moves
  obtain ⟨history, told⟩ := log_run created (owned_create config) moves
  refine ⟨history, nodup_entries (settled.run later) (distinct_requests_run settled distinct later),
    fun subject x logged => ?_⟩
  obtain ⟨about, held⟩ := told _ logged
  refine ⟨about, fun entry listed => ⟨fun same => ?_, fun same => ?_⟩⟩
  · have kept := heldBy_run settled held later
    have entered := heldBy_of_mem_entries (owned_run settled owned later) listed
    exact entered.eq_of_text kept (same.trans about.1)
  · rw [same, about.1]

end Deployment

end Gateway
