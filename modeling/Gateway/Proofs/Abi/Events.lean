import Gateway.Proofs.Abi.Refusal
import Gateway.Proofs.Abi.Settings
import Gateway.Proofs.Event.Queue
import Gateway.Proofs.Server.Metrics

namespace Gateway

theorem ok_of_bind {ε α β : Type} {x : Except ε α} {f : α → Except ε β} {b : β} (ok : (x >>= f) = .ok b) :
    ∃ a, x = .ok a ∧ f a = .ok b := by
  cases x with
  | error e => cases ok
  | ok a => exact ⟨a, rfl, ok⟩

theorem ok_of_mapError {ε δ α : Type} {x : Except ε α} {f : ε → δ} {a : α} (ok : x.mapError f = .ok a) :
    x = .ok a := by
  cases x with
  | error e => cases ok
  | ok b =>
    cases ok
    rfl

def ServerCall.Spelt : ServerCall → Prop
  | addRoute _ pattern => ZeroFree pattern
  | _ => True

def Server.Moves (s s' : Server) : Prop :=
  (∃ call : ServerCall, call.Spelt ∧ s' = call.apply s) ∨ s' = s.popEvent.2

def Server.emptied (s : Server) : Server :=
  { s with engine := { s.engine with queue := { s.engine.queue with events := [] } } }

structure EventQueue.Real (q : EventQueue) : Prop where
  limit : 0 < q.maxPayload
  events : ∀ x ∈ q.events, x.isNothing = false

namespace EventQueue

theorem real_empty {maxPayload : Nat} (limit : 0 < maxPayload) : (empty maxPayload).Real :=
  ⟨limit, List.forall_mem_nil _⟩

theorem Real.reports {e f : Engine} (real : e.queue.Real) {events : List Envelope} {opened : Int}
    {sent : List SendStatus} (reports : e.Reports f events opened sent) : f.queue.Real := by
  rw [reports.queue]
  exact ⟨real.limit, List.forall_mem_append.mpr ⟨real.events, reports.real real.limit⟩⟩

theorem Real.pop {q : EventQueue} (real : q.Real) : q.pop.2.Real := by
  cases queued : q.events with
  | nil =>
    rw [pop_nil queued]
    exact real
  | cons x rest =>
    have others := real.events
    rw [queued] at others
    rw [pop_cons queued]
    exact ⟨real.limit, (List.forall_mem_cons.mp others).2⟩

theorem Real.moves {s s' : Server} (real : s.engine.queue.Real) (moves : s.Moves s') : s'.engine.queue.Real := by
  rcases moves with ⟨call, _, rfl⟩ | rfl
  · obtain ⟨events, sent, reports, -⟩ := ServerCall.reports_apply s call
    exact real.reports reports
  · exact real.pop

end EventQueue

namespace Abi

/-! The configurations. -/

theorem Settings.maxPayload_pos {settings : Settings} {config : ServerConfig}
    (taken : settings.serverConfig = .ok config) : 0 < config.maxPayloadSize := by
  obtain ⟨-, follows, positive, -⟩ := Settings.matches_of_serverConfig taken
  rw [follows.maxPayloadSize]
  exact positive

end Abi

theorem ConfigLoader.checked_valid {c config : Config} (passed : checked config = .ok c) : c.validate = .ok () := by
  unfold checked at passed
  cases valid : config.validate with
  | error e =>
    rw [valid] at passed
    cases passed
  | ok _ =>
    rw [valid] at passed
    cases passed
    exact valid

theorem ConfigLoader.load_valid {loader : ConfigLoader} {env : Environment} {c : Config}
    (loaded : loader.load env = some (.ok c)) : c.validate = .ok () := by
  unfold load at loaded
  split at loaded
  · exact checked_valid (Option.some.inj loaded)
  · obtain ⟨vars, _, loaded⟩ := Option.map_eq_some_iff.mp loaded
    obtain ⟨config, _, passed⟩ := ok_of_bind loaded
    exact checked_valid passed

namespace Abi

theorem Host.fileConfig_loaded {files : FileSystem} {env : Environment} {path : TextPointer} {config : ServerConfig}
    (taken : fileConfig files env path = some (.ok config)) :
    ∃ (loader : ConfigLoader) (vars : Environment) (c : Config),
      loader.load vars = some (.ok c) ∧ c.serverConfig = .ok config := by
  unfold fileConfig at taken
  split at taken
  · cases taken
  · rename_i loader _
    obtain ⟨read, loaded, taken⟩ := Option.map_eq_some_iff.mp taken
    obtain ⟨c, rfl, served⟩ := ok_of_bind (ok_of_mapError taken)
    exact ⟨_, _, c, loaded, served⟩

theorem Host.fileConfig_pos {files : FileSystem} {env : Environment} {path : TextPointer} {config : ServerConfig}
    (taken : fileConfig files env path = some (.ok config)) : 0 < config.maxPayloadSize := by
  obtain ⟨loader, vars, c, loaded, made⟩ := fileConfig_loaded taken
  rw [((c.serverConfig_eq_ok_iff config).mp made).maxPayloadSize]
  exact (c.validate_eq_ok_iff.mp (ConfigLoader.load_valid loaded)).maxPayloadSize

/-! What a call leaves of the server. -/

theorem TextPointer.read_zeroFree {pointer : TextPointer} {argument s : String} (taken : pointer.read argument = .ok s) :
    ZeroFree s := by
  unfold read at taken
  split at taken
  · cases taken
  · split at taken
    · rename_i spelt
      cases taken
      exact .ofBytes? spelt
    · cases taken

namespace Host

def Serves (h h' : Host) : Prop :=
  h'.server = h.server ∨ ∃ s s', h.server = some s ∧ h'.server = some s' ∧ s.Moves s'

variable {h : Host}

theorem resolve_eq_ok {pointer : ServerPointer} {s : Server} (found : h.resolve pointer = .ok s) :
    h.server = some s := by
  unfold resolve server? at found
  cases pointer with
  | null => cases found
  | held =>
    cases server : h.server with
    | none =>
      rw [server] at found
      cases found
    | some s =>
      rw [server] at found
      cases found
      rfl

namespace Serves

variable {α β : Type} {answer : α} {reading : Except Failure β}

theorem run {rest : β → Except (Refusal α) (α × Server)}
    (taken : ∀ b, reading = .ok b → h.Serves (h.run (rest b)).2) :
    h.Serves (h.run (refusing answer reading >>= rest)).2 := by
  cases read : reading with
  | error failure => exact .inl rfl
  | ok b => exact taken b read

theorem ask (call : Except (Refusal α) α) : h.Serves (h.ask call).2 := by
  cases call <;> exact .inl rfl

theorem move {pointer : ServerPointer} {s : Server} (found : h.resolve pointer = .ok s) {result : α × Server}
    (moves : s.Moves result.2) : h.Serves (h.run (pure result)).2 :=
  .inr ⟨s, result.2, resolve_eq_ok found, rfl, moves⟩

end Serves

theorem serves_addRoute (h : Host) (server : ServerPointer) (verb : Int) (pattern : TextPointer) :
    h.Serves (h.addRoute server verb pattern).2 := by
  unfold addRoute
  cases found : h.resolve server with
  | error failure => exact .inl rfl
  | ok s =>
    cases (Verb.ofCode verb).mapError (Failure.invalidArgument ·.message) with
    | error failure => exact .inl rfl
    | ok verb =>
      cases read : pattern.read "pattern" with
      | error failure => exact .inl rfl
      | ok pattern =>
        exact .inr ⟨s, _, resolve_eq_ok found, rfl, .inl ⟨.addRoute verb pattern, TextPointer.read_zeroFree read, rfl⟩⟩

theorem serves_body (h : Host) (server : ServerPointer) (id : TextPointer) (data : DataPointer) (length : Nat)
    {part : Server → RequestId → Bytes → ResponseStatus × Server}
    (moves : ∀ (s : Server) id bytes, s.Moves (part s id bytes).2) : h.Serves (h.withBody server id data length part).2 := by
  unfold withBody target
  simp only [refusing_bind, refusing_pure, bind_assoc, pure_bind]
  exact .run fun s found => .run fun id _ => .run fun bytes _ => .move found (moves s id bytes)

theorem serves_call (h : Host) {call : HostCall} (takes : call.takesServer = true) : h.Serves (h.call call).2 := by
  cases call with
  | create | createFromFile | initLogging => cases takes
  | addRoute server verb pattern => exact h.serves_addRoute server verb pattern
  | startListening server port bound => exact .run fun s found => .move found (.inl ⟨.start port bound, trivial, rfl⟩)
  | stopListening server => exact .run fun s found => .move found (.inl ⟨.stop, trivial, rfl⟩)
  | state | localPort | hasEvents | eventCount | clientCount => exact .inl rfl
  | purge server =>
    show h.Serves (h.purge server).2
    unfold purge
    cases found : h.server? server with
    | none => exact .inl rfl
    | some s => exact .inr ⟨s, _, resolve_eq_ok (by rw [resolve, found]), rfl, .inl ⟨.purge, trivial, rfl⟩⟩
  | nextEvent server record =>
    simp only [Host.call, nextEvent]
    refine .run fun s found => ?_
    cases record with
    | none => exact .inl rfl
    | some r => exact .run fun _ _ => .move found (.inr rfl)
  | send server id data length kind =>
    refine .run fun s found => .run fun id _ => .run fun bytes _ => .move found ?_
    cases kind with
    | text => exact .inl ⟨.sendText id bytes, trivial, rfl⟩
    | binary => exact .inl ⟨.sendBinary id bytes, trivial, rfl⟩
    | compressedText => exact .inl ⟨.sendCompressedText id bytes, trivial, rfl⟩
  | broadcast server data length kind =>
    refine .run fun s found => .run fun bytes _ => .move found ?_
    cases kind with
    | text => exact .inl ⟨.broadcastText bytes, trivial, rfl⟩
    | binary => exact .inl ⟨.broadcastBinary bytes, trivial, rfl⟩
    | compressedText => exact .inl ⟨.broadcastCompressedText bytes, trivial, rfl⟩
  | disconnect server id =>
    exact .run fun s found => .run fun id _ => .move found (.inl ⟨.disconnect id, trivial, rfl⟩)
  | hasRequest server id => exact .ask _
  | copyField server id field buffer => exact .ask _
  | write server id data length =>
    exact h.serves_body server id data length fun s id bytes => .inl ⟨.write id bytes, trivial, rfl⟩
  | finish server id data length =>
    exact h.serves_body server id data length fun s id bytes => .inl ⟨.finish id bytes, trivial, rfl⟩
  | tryEnd server id data length totalSize =>
    exact h.serves_body server id data length fun s id bytes => .inl ⟨.tryEnd id bytes totalSize, trivial, rfl⟩
  | setStatus server id line =>
    show h.Serves (h.setStatus server id line).2
    unfold setStatus target
    simp only [refusing_bind, refusing_pure, bind_assoc, pure_bind]
    exact .run fun s found => .run fun id _ => .run fun line _ => .move found (.inl ⟨.setStatus id line, trivial, rfl⟩)
  | setHeader server id name value =>
    show h.Serves (h.setHeader server id name value).2
    unfold setHeader target
    simp only [refusing_bind, refusing_pure, bind_assoc, pure_bind]
    exact .run fun s found => .run fun id _ => .run fun name _ => .run fun value _ =>
      .move found (.inl ⟨.setHeader id name value, trivial, rfl⟩)

theorem server_initLogging (h : Host) (level : TextPointer) (json : Bool) :
    (h.initLogging level json).2.server = h.server := by
  rw [initLogging_eq]
  cases h.logging level json <;> rfl

theorem kept_call {P : Server → Prop} (new : ∀ config : ServerConfig, 0 < config.maxPayloadSize → P (.create config))
    (moved : ∀ s s', P s → s.Moves s' → P s') (kept : ∀ s, h.server = some s → P s) (call : HostCall) :
    ∀ s, (h.call call).2.server = some s → P s := by
  have served (takes : call.takesServer = true) : ∀ s, (h.call call).2.server = some s → P s := by
    intro s' held
    rcases h.serves_call takes with same | ⟨s, after, before, left, moves⟩
    · exact kept s' (same.symm.trans held)
    · cases left.symm.trans held
      exact moved s s' (kept s before) moves
  have created {config : Except Failure ServerConfig} (positive : ∀ c, config = .ok c → 0 < c.maxPayloadSize) :
      ∀ s, (h.hold (config.map .create)).2.server = some s → P s := by
    intro s held
    cases config with
    | error failure => cases held
    | ok config =>
      cases held
      exact new config (positive config rfl)
  cases call with
  | create settings =>
    cases settings with
    | none =>
      intro s held
      cases held
    | some settings => exact created fun config taken => Settings.maxPayload_pos (ok_of_mapError taken)
  | createFromFile files env path read returns =>
    exact created fun config taken => fileConfig_pos (returns.trans (congrArg some taken))
  | initLogging level json =>
    intro s held
    exact kept s ((h.server_initLogging level json).symm.trans held)
  | _ => exact served rfl

def Real (h : Host) : Prop := ∀ s, h.server = some s → s.engine.queue.Real

theorem Real.call (real : h.Real) (call : HostCall) : (h.call call).2.Real := by
  have new (config : ServerConfig) (positive : 0 < config.maxPayloadSize) :
      (Server.create config).engine.queue.Real := EventQueue.real_empty positive
  exact kept_call (P := fun s => s.engine.queue.Real) new (fun _ _ real moves => real.moves moves) real call

end Host

/-- A host with the tasks that run beside its server. -/
structure Embedding where
  host : Host
  task : Uuid → Task

inductive EmbeddingMove where
  | call (call : HostCall)
  | session (id : Uuid) (move : SessionMove)
  | request (id : Uuid) (move : RequestMove)

namespace Embedding

def start : Embedding := ⟨.start, fun _ => .unused⟩

def serve (e : Embedding) (move : Service → Service) : Embedding :=
  match e.host.server with
  | none => e
  | some s =>
    let v := move ⟨s.engine, e.task, []⟩
    ⟨{ e.host with server := some { s with engine := v.engine } }, v.task⟩

def step (e : Embedding) : EmbeddingMove → Embedding
  | .call call =>
    let task := match call with
      | .create _ | .createFromFile .. => fun _ => .unused
      | _ => e.task
    ⟨(e.host.call call).2, task⟩
  | .session id move => e.serve (·.moveSession id move)
  | .request id move => e.serve (·.moveRequest id move)

def run (e : Embedding) (moves : List EmbeddingMove) : Embedding := moves.foldl step e

variable {e : Embedding}

theorem kept_serve {P : Server → Prop} {move : Service → Service} (kept : ∀ s, e.host.server = some s → P s)
    (moved : ∀ s, P s → P { s with engine := (move ⟨s.engine, e.task, []⟩).engine }) :
    ∀ s, (e.serve move).host.server = some s → P s := by
  unfold serve
  split
  · exact kept
  · rename_i s held
    intro s' after
    cases after
    exact moved s (kept s held)

end Embedding

/-! Taking events. -/

namespace Host

variable {h : Host} {s : Server}

theorem nextEvent_valid (held : h.server = some s) {record : EventRecord}
    (room : record.payload = none → record.payloadCapacity = 0) :
    h.nextEvent .held (some record) = ((!s.popEvent.1.isNothing, some (record.write s.popEvent.1)),
      { h with server := some s.popEvent.2 }) := by
  have resolved : h.resolve .held = .ok s := by rw [resolve, server?, held]
  have checked : record.check = .ok () := by
    unfold EventRecord.check
    rw [if_neg]
    intro bad
    obtain ⟨missing, promised⟩ := Bool.and_eq_true_iff.mp bad
    simp [room (Option.isNone_iff_eq_none.mp missing)] at promised
  simp only [nextEvent, resolved, checked]
  rfl

end Host

end Abi

end Gateway
