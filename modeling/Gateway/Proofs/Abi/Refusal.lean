import Gateway.Abi.Host
import Gateway.Proofs.Abi.Message
import Gateway.Proofs.Id.Spelling

namespace Gateway.Abi

def failed? {α : Type} : Except Failure α → Option Failure
  | .ok _ => none
  | .error failure => some failure

inductive Argument where
  | server (pointer : ServerPointer)
  | text (pointer : TextPointer) (name : String)
  | connectionId (pointer : TextPointer)
  | requestId (pointer : TextPointer)
  | data (pointer : DataPointer) (length : Nat)
  | buffer (pointer : BufferPointer)
  | event (record : Option EventRecord)
  | payload (record : Option EventRecord)
  | verb (code : Int)

inductive HostAnswer where
  | code (code : ErrorCode)
  | flag (answer : Bool)
  | sent (status : SendStatus)
  | broadcast (status : BroadcastStatus)
  | response (status : ResponseStatus)
  | request (status : RequestStatus)
  | field (isWhole : Bool) (buffer : BufferPointer)
  | event (found : Bool) (record : Option EventRecord)
  | state (state : ServerState)
  | port (port : Int)
  | count (count : Nat)
  deriving DecidableEq, Repr

/-- A call of the interface that returns. The first three are about the process and take no server. -/
inductive HostCall where
  | create (settings : Option Settings)
  | createFromFile (files : FileSystem) (env : Environment) (path : TextPointer) (read : Except Failure ServerConfig)
    (returns : Host.fileConfig files env path = some read)
  | initLogging (level : TextPointer) (json : Bool)
  | addRoute (server : ServerPointer) (verb : Int) (pattern : TextPointer)
  | startListening (server : ServerPointer) (port : Nat) (bound : Except String Nat)
  | stopListening (server : ServerPointer)
  | state (server : ServerPointer)
  | localPort (server : ServerPointer)
  | hasEvents (server : ServerPointer)
  | eventCount (server : ServerPointer)
  | nextEvent (server : ServerPointer) (record : Option EventRecord)
  | send (server : ServerPointer) (id : TextPointer) (data : DataPointer) (length : Nat) (kind : Host.FrameKind)
  | broadcast (server : ServerPointer) (data : DataPointer) (length : Nat) (kind : Host.FrameKind)
  | disconnect (server : ServerPointer) (id : TextPointer)
  | clientCount (server : ServerPointer)
  | purge (server : ServerPointer)
  | hasRequest (server : ServerPointer) (id : TextPointer)
  | copyField (server : ServerPointer) (id : TextPointer) (field : FieldArgument) (buffer : BufferPointer)
  | write (server : ServerPointer) (id : TextPointer) (data : DataPointer) (length : Nat)
  | finish (server : ServerPointer) (id : TextPointer) (data : DataPointer) (length : Nat)
  | tryEnd (server : ServerPointer) (id : TextPointer) (data : DataPointer) (length totalSize : Nat)
  | setStatus (server : ServerPointer) (id line : TextPointer)
  | setHeader (server : ServerPointer) (id name value : TextPointer)

namespace Argument

def Valid (h : Host) : Argument → Prop
  | server pointer => pointer = .held ∧ h.server.isSome = true
  | text pointer _ => ∃ bytes s, pointer = some bytes ∧ TextPointer.terminated bytes = Text.bytes s
  | connectionId pointer | requestId pointer => ∃ bytes s id,
    pointer = some bytes ∧ TextPointer.terminated bytes = Text.bytes s ∧ Uuid.parse s = .ok id
  | data pointer length => pointer = none → length = 0
  | buffer pointer => pointer ≠ none
  | event record => record ≠ none
  | payload record => ∀ r, record = some r → r.payload = none → r.payloadCapacity = 0
  | verb code => ∃ verb : Verb, verb.code = code

def textFailure? (pointer : TextPointer) (name : String) : Option Failure :=
  match pointer with
  | none => some (.nullPointer name)
  | some bytes => if (Text.ofBytes? (TextPointer.terminated bytes)).isSome then none else some (.invalidUtf8 name)

def idFailure? (pointer : TextPointer) (name : String) : Option Failure :=
  match pointer with
  | none => some (.nullPointer name)
  | some bytes =>
    match Text.ofBytes? (TextPointer.terminated bytes) with
    | none => some (.invalidUtf8 name)
    | some s =>
      match Uuid.parse s with
      | .ok _ => none
      | .error fault => some (.invalidId (InvalidId.describe s fault.message))

def failure? (h : Host) : Argument → Option Failure
  | server pointer => if (h.server? pointer).isSome then none else some (.nullPointer "server")
  | text pointer name => textFailure? pointer name
  | connectionId pointer => idFailure? pointer "connection_id"
  | requestId pointer => idFailure? pointer "request_id"
  | data pointer length => if length = 0 ∨ pointer.isSome then none else some (.nullPointer "data")
  | buffer pointer => if pointer.isSome then none else some (.nullPointer "buffer")
  | event record => if record.isSome then none else some (.nullPointer "event")
  | payload record => if record.any (fun r => r.payload.isNone && 0 < r.payloadCapacity) then
      some (.nullPointer "event.payload") else none
  | verb code => if Verb.all.any (·.code = code) then none else
      some (.invalidArgument (Verb.Unknown.code code).message)

end Argument

structure Check where
  argument : Argument
  answer : Failure → HostAnswer

namespace HostCall

def bodyChecks (server : ServerPointer) (id : TextPointer) (data : DataPointer) (length : Nat) : List Check :=
  [⟨.server server, fun _ => .response .noSuchRequest⟩, ⟨.requestId id, fun _ => .response .noSuchRequest⟩,
    ⟨.data data length, fun _ => .response .noSuchRequest⟩]

def checks : HostCall → List Check
  | addRoute server verb pattern =>
    [⟨.server server, fun failure => .code failure.code⟩, ⟨.verb verb, fun failure => .code failure.code⟩,
      ⟨.text pattern "pattern", fun failure => .code failure.code⟩]
  | startListening server _ _ | stopListening server => [⟨.server server, fun _ => .flag false⟩]
  | nextEvent server record =>
    [⟨.server server, fun _ => .event false record⟩, ⟨.event record, fun _ => .event false record⟩,
      ⟨.payload record, fun _ => .event false record⟩]
  | send server id data length _ =>
    [⟨.server server, fun _ => .sent .notFound⟩, ⟨.connectionId id, fun _ => .sent .notFound⟩,
      ⟨.data data length, fun _ => .sent .dropped⟩]
  | broadcast server data length _ =>
    [⟨.server server, fun _ => .broadcast .dropped⟩, ⟨.data data length, fun _ => .broadcast .dropped⟩]
  | disconnect server id => [⟨.server server, fun _ => .flag false⟩, ⟨.connectionId id, fun _ => .flag false⟩]
  | hasRequest server id => [⟨.server server, fun _ => .flag false⟩, ⟨.requestId id, fun _ => .flag false⟩]
  | copyField server id field buffer =>
    -- once there is a buffer its first byte is cleared
    let cleared := buffer.map Server.clearFirst
    [⟨.buffer buffer, fun _ => .field false buffer⟩, ⟨.server server, fun _ => .field false cleared⟩,
      ⟨.requestId id, fun _ => .field false cleared⟩] ++
      match field with
      | .header name => [⟨.text name "name", fun _ => .field false cleared⟩]
      | _ => []
  | write server id data length | finish server id data length | tryEnd server id data length _ =>
    bodyChecks server id data length
  | setStatus server id line =>
    [⟨.server server, fun _ => .request .noSuchRequest⟩, ⟨.requestId id, fun _ => .request .noSuchRequest⟩,
      ⟨.text line "status", fun _ => .request .invalidValue⟩]
  | setHeader server id name value =>
    [⟨.server server, fun _ => .request .noSuchRequest⟩, ⟨.requestId id, fun _ => .request .noSuchRequest⟩,
      ⟨.text name "name", fun _ => .request .invalidValue⟩, ⟨.text value "value", fun _ => .request .invalidValue⟩]
  | _ => []

def takesServer : HostCall → Bool
  | create _ | createFromFile .. | initLogging _ _ => false
  | _ => true

end HostCall

def firstFailure (h : Host) (checks : List Check) : Option (Failure × HostAnswer) :=
  checks.findSome? fun check => (check.argument.failure? h).map fun failure => (failure, check.answer failure)

def Host.logging (h : Host) (level : TextPointer) (json : Bool) : Except Failure Logger := do
  let level ← match level with
    | none => .ok "info"
    | some _ => level.read "level"
  (h.logger.install (.withLevel level json)).mapError .ofLog

/-- Why a call is refused, if it is. What a call about the process reads is all that it may be refused for. -/
def HostCall.failure? (h : Host) : HostCall → Option Failure
  | create none => some (.nullPointer "config")
  | create (some settings) => failed? (settings.serverConfig.mapError .invalidConfig)
  | createFromFile _ _ _ read _ => failed? read
  | initLogging level json => failed? (h.logging level json)
  | call => (firstFailure h call.checks).map (·.1)

namespace Host

def answering {α : Type} (wrap : α → HostAnswer) (result : α × Host) : HostAnswer × Host := (wrap result.1, result.2)

def call (h : Host) : HostCall → HostAnswer × Host
  | .create settings => answering .flag (h.create settings)
  | .createFromFile _ _ _ read _ => answering .flag (h.hold (read.map .create))
  | .initLogging level json => answering .code (h.initLogging level json)
  | .addRoute server verb pattern => answering .code (h.addRoute server verb pattern)
  | .startListening server port bound => answering .flag (h.startListening server port bound)
  | .stopListening server => answering .flag (h.stopListening server)
  | .state server => (.state (h.state server), h)
  | .localPort server => (.port (h.localPort server), h)
  | .hasEvents server => (.flag (h.hasEvents server), h)
  | .eventCount server => (.count (h.eventCount server), h)
  | .nextEvent server record => answering (fun (found, record) => .event found record) (h.nextEvent server record)
  | .send server id data length kind => answering .sent (h.send server id data length kind)
  | .broadcast server data length kind => answering .broadcast (h.broadcast server data length kind)
  | .disconnect server id => answering .flag (h.disconnect server id)
  | .clientCount server => (.count (h.clientCount server), h)
  | .purge server => answering .count (h.purge server)
  | .hasRequest server id => answering .flag (h.hasRequest server id)
  | .copyField server id field buffer =>
    answering (fun (isWhole, buffer) => .field isWhole buffer) (h.copyField server id field buffer)
  | .write server id data length => answering .response (h.write server id data length)
  | .finish server id data length => answering .response (h.finish server id data length)
  | .tryEnd server id data length totalSize => answering .response (h.tryEnd server id data length totalSize)
  | .setStatus server id line => answering .request (h.setStatus server id line)
  | .setHeader server id name value => answering .request (h.setHeader server id name value)

def after (h : Host) (calls : List HostCall) : Host := calls.foldl (fun h call => (h.call call).2) h

def failures (h : Host) : List HostCall → List Failure
  | [] => []
  | call :: calls => (call.failure? h).toList ++ failures (h.call call).2 calls

end Host

/-! Reading an argument fails just as the argument is bad. -/

theorem failed?_map {α β : Type} (f : α → β) (reading : Except Failure α) :
    failed? (reading.map f) = failed? reading := by
  cases reading <;> rfl

namespace TextPointer

def readUuid (pointer : TextPointer) (argument : String) : Except Failure Uuid :=
  match pointer.read argument with
  | .ok s => (Uuid.read s).mapError .ofId
  | .error failure => .error failure

variable (pointer : TextPointer) (argument : String)

theorem map_readUuid {α : Type} {read : String → Except InvalidId α} {make : Uuid → α}
    (reads : ∀ s, read s = (Uuid.read s).map make) :
    (match pointer.read argument with
      | .ok s => (read s).mapError .ofId
      | .error failure => .error failure) = (pointer.readUuid argument).map make := by
  unfold readUuid
  cases pointer.read argument with
  | error failure => rfl
  | ok s =>
    dsimp only
    rw [reads]
    cases Uuid.read s <;> rfl

theorem readConnectionId_eq : pointer.readConnectionId argument = (pointer.readUuid argument).map .mk :=
  map_readUuid pointer argument ConnectionId.read_eq

theorem readRequestId_eq : pointer.readRequestId argument = (pointer.readUuid argument).map .mk :=
  map_readUuid pointer argument RequestId.read_eq

end TextPointer

namespace Argument

theorem failed?_text (pointer : TextPointer) (name : String) :
    failed? (pointer.read name) = textFailure? pointer name := by
  unfold TextPointer.read textFailure?
  cases pointer with
  | none => rfl
  | some bytes =>
    dsimp only
    cases Text.ofBytes? (TextPointer.terminated bytes) <;> rfl

theorem failed?_uuid (s : String) : failed? ((Uuid.read s).mapError .ofId) =
    match Uuid.parse s with
    | .ok _ => none
    | .error fault => some (.invalidId (InvalidId.describe s fault.message)) := by
  unfold Uuid.read
  cases Uuid.parse s <;> rfl

theorem failed?_readUuid (pointer : TextPointer) (name : String) :
    failed? (pointer.readUuid name) = idFailure? pointer name := by
  unfold TextPointer.readUuid TextPointer.read idFailure?
  cases pointer with
  | none => rfl
  | some bytes =>
    dsimp only
    cases Text.ofBytes? (TextPointer.terminated bytes) with
    | none => rfl
    | some s => exact failed?_uuid s

theorem failed?_connectionId (pointer : TextPointer) :
    failed? (pointer.readConnectionId "connection_id") = idFailure? pointer "connection_id" := by
  rw [TextPointer.readConnectionId_eq, failed?_map, failed?_readUuid]

theorem failed?_requestId (pointer : TextPointer) :
    failed? (pointer.readRequestId "request_id") = idFailure? pointer "request_id" := by
  rw [TextPointer.readRequestId_eq, failed?_map, failed?_readUuid]

theorem failed?_server (h : Host) (pointer : ServerPointer) :
    failed? (h.resolve pointer) = failure? h (.server pointer) := by
  unfold Host.resolve
  show _ = if (h.server? pointer).isSome then none else some (Failure.nullPointer "server")
  cases h.server? pointer <;> rfl

theorem failed?_data (h : Host) (pointer : DataPointer) (length : Nat) :
    failed? (pointer.read length) = failure? h (.data pointer length) := by
  unfold DataPointer.read
  show _ = if length = 0 ∨ pointer.isSome then none else some (Failure.nullPointer "data")
  by_cases empty : length = 0
  · rw [if_pos empty, if_pos (.inl empty)]
    rfl
  · cases pointer with
    | none =>
      rw [if_neg empty, if_neg (by simpa using empty)]
      rfl
    | some bytes =>
      rw [if_neg empty, if_pos (.inr rfl)]
      rfl

theorem failed?_buffer (h : Host) (pointer : BufferPointer) :
    failed? pointer.read = failure? h (.buffer pointer) := by
  cases pointer <;> rfl

theorem failed?_payload (h : Host) (r : EventRecord) : failed? r.check = failure? h (.payload (some r)) := by
  unfold EventRecord.check
  show _ = if (some r).any (fun r => r.payload.isNone && 0 < r.payloadCapacity) then _ else _
  rw [Option.any_some]
  split <;> rfl

theorem failed?_verb (h : Host) (code : Int) :
    failed? ((Verb.ofCode code).mapError (.invalidArgument ·.message)) = failure? h (.verb code) := by
  unfold Verb.ofCode
  show _ = if Verb.all.any (·.code = code) then none else
    some (Failure.invalidArgument (Verb.Unknown.code code).message)
  have found : Verb.all.any (·.code = code) = (Verb.all.find? (·.code = code)).isSome := by
    rw [Bool.eq_iff_iff, List.any_eq_true, List.find?_isSome]
  rw [found]
  cases Verb.all.find? (·.code = code) <;> rfl

end Argument

/-! One check after the other. -/

/-- What a call that makes some checks may answer and leave: it is refused by the first that fails, and else
    the last error stays. -/
def Host.Follows (h : Host) (result : HostAnswer × Host) (checks : List Check) : Prop :=
  match firstFailure h checks with
  | some (failure, answer) => result = (answer, h.fail failure)
  | none => result.2.lastError = h.lastError

theorem refusing_bind {α β γ : Type} (answer : α) (first : Except Failure β) (next : β → Except Failure γ) :
    refusing answer (first >>= next) = refusing answer first >>= fun b => refusing answer (next b) := by
  cases first <;> rfl

theorem refusing_pure {α β : Type} (answer : α) (b : β) : refusing answer (pure b) = pure b := rfl

namespace Host.Follows

variable {h : Host} {checks : List Check} {result : HostAnswer × Host}

theorem nil (kept : result.2.lastError = h.lastError) : h.Follows result [] := kept

theorem cons {α : Type} {reading : Except Failure α} {argument : Argument} {answer : Failure → HostAnswer}
    (reads : failed? reading = argument.failure? h)
    (refused : ∀ failure, reading = .error failure → result = (answer failure, h.fail failure))
    (taken : ∀ a, reading = .ok a → h.Follows result checks) : h.Follows result (⟨argument, answer⟩ :: checks) := by
  unfold Follows firstFailure
  rw [List.findSome?_cons, ← reads]
  cases reading with
  | error failure => exact refused failure rfl
  | ok a => exact taken a rfl

variable {α β : Type} {wrap : α → HostAnswer} {answer : α} {reading : Except Failure β} {argument : Argument}

theorem run {rest : β → Except (Refusal α) (α × Server)} (reads : failed? reading = argument.failure? h)
    (taken : ∀ b, h.Follows (answering wrap (h.run (rest b))) checks) :
    h.Follows (answering wrap (h.run (refusing answer reading >>= rest)))
      (⟨argument, fun _ => wrap answer⟩ :: checks) := by
  refine .cons reads (fun failure bad => ?_) fun b good => ?_
  · rw [bad]
    rfl
  · rw [good]
    exact taken b

theorem ask {rest : β → Except (Refusal α) α} (reads : failed? reading = argument.failure? h)
    (taken : ∀ b, h.Follows (answering wrap (h.ask (rest b))) checks) :
    h.Follows (answering wrap (h.ask (refusing answer reading >>= rest)))
      (⟨argument, fun _ => wrap answer⟩ :: checks) := by
  refine .cons reads (fun failure bad => ?_) fun b good => ?_
  · rw [bad]
    rfl
  · rw [good]
    exact taken b

end Host.Follows

namespace Host

open Argument (failed?_server failed?_text failed?_connectionId failed?_requestId failed?_data failed?_buffer
  failed?_payload failed?_verb)

variable (h : Host)

theorem follows_addRoute (server : ServerPointer) (verb : Int) (pattern : TextPointer) :
    h.Follows (h.call (.addRoute server verb pattern)) (HostCall.addRoute server verb pattern).checks := by
  refine .cons (failed?_server h server) (fun failure bad => ?_) fun s good =>
    .cons (failed?_verb h verb) (fun failure bad => ?_) fun v known =>
      .cons (failed?_text pattern "pattern") (fun failure bad => ?_) fun p read => .nil ?_
  · simp only [call, addRoute, bad]
    rfl
  · simp only [call, addRoute, good, bad]
    rfl
  · simp only [call, addRoute, good, known, bad]
    rfl
  · simp only [call, addRoute, good, known, read]
    rfl

theorem follows_copyField (server : ServerPointer) (id : TextPointer) (field : FieldArgument) (buffer : BufferPointer) :
    h.Follows (h.call (.copyField server id field buffer)) (HostCall.copyField server id field buffer).checks := by
  cases buffer with
  | none => exact rfl
  | some room =>
    refine .cons (failed?_buffer h (some room)) nofun fun _ _ => ?_
    simp only [call, copyField, BufferPointer.read, refusing_bind, refusing_pure]
    refine .ask (failed?_server h server) fun s => .ask (failed?_requestId id) fun id => ?_
    cases field with
    | header name => exact .ask ((failed?_map _ _).trans (failed?_text name "name")) fun _ => .nil rfl
    | method | url | query | endpoint | allHeaders => exact .nil rfl

theorem follows_body (server : ServerPointer) (id : TextPointer) (data : DataPointer) (length : Nat)
    (part : Server → RequestId → Bytes → ResponseStatus × Server) :
    h.Follows (answering .response (h.withBody server id data length part))
      (HostCall.bodyChecks server id data length) := by
  unfold withBody target
  simp only [refusing_bind, refusing_pure, bind_assoc, pure_bind]
  exact .run (failed?_server h server) fun s => .run (failed?_requestId id) fun id =>
    .run (failed?_data h data length) fun bytes => .nil rfl

theorem follows_checks (call : HostCall) (takes : call.takesServer = true) :
    h.Follows (h.call call) call.checks := by
  cases call with
  | create | createFromFile | initLogging => cases takes
  | addRoute server verb pattern => exact h.follows_addRoute server verb pattern
  | startListening server port bound => exact .run (failed?_server h server) fun s => .nil rfl
  | stopListening server => exact .run (failed?_server h server) fun s => .nil rfl
  | state | localPort | hasEvents | eventCount | clientCount => exact .nil rfl
  | purge server =>
    refine .nil ?_
    show (h.purge server).2.lastError = h.lastError
    unfold purge
    cases h.server? server <;> rfl
  | nextEvent server record =>
    simp only [call, nextEvent]
    refine .run (failed?_server h server) fun s => ?_
    cases record with
    | none => exact rfl
    | some r =>
      exact .cons (show failed? (.ok ()) = Argument.failure? h (.event (some r)) from rfl) nofun fun _ _ =>
        .run (failed?_payload h r) fun _ => .nil rfl
  | send server id data length kind =>
    exact .run (failed?_server h server) fun s => .run (failed?_connectionId id) fun id =>
      .run (failed?_data h data length) fun bytes => .nil (by cases kind <;> rfl)
  | broadcast server data length kind =>
    exact .run (failed?_server h server) fun s => .run (failed?_data h data length) fun bytes =>
      .nil (by cases kind <;> rfl)
  | disconnect server id =>
    exact .run (failed?_server h server) fun s => .run (failed?_connectionId id) fun id => .nil rfl
  | hasRequest server id =>
    exact .ask (failed?_server h server) fun s => .ask (failed?_requestId id) fun id => .nil rfl
  | copyField server id field buffer => exact h.follows_copyField server id field buffer
  | write server id data length => exact h.follows_body server id data length _
  | finish server id data length => exact h.follows_body server id data length _
  | tryEnd server id data length totalSize => exact h.follows_body server id data length _
  | setStatus server id line =>
    show h.Follows (answering .request (h.setStatus server id line)) _
    unfold setStatus target
    simp only [refusing_bind, refusing_pure, bind_assoc, pure_bind]
    exact .run (failed?_server h server) fun s => .run (failed?_requestId id) fun id =>
      .run (failed?_text line "status") fun line => .nil rfl
  | setHeader server id name value =>
    show h.Follows (answering .request (h.setHeader server id name value)) _
    unfold setHeader target
    simp only [refusing_bind, refusing_pure, bind_assoc, pure_bind]
    exact .run (failed?_server h server) fun s => .run (failed?_requestId id) fun id =>
      .run (failed?_text name "name") fun name => .run (failed?_text value "value") fun value => .nil rfl

end Host

/-! An argument is good or there is something wrong with it. -/

namespace Argument

theorem unless_eq_none_iff {p : Prop} [Decidable p] {failure : Failure} :
    (if p then none else some failure) = none ↔ p := by
  by_cases good : p <;> simp [good]

theorem textFailure?_eq_none_iff (pointer : TextPointer) (name : String) :
    textFailure? pointer name = none ↔
      ∃ bytes s, pointer = some bytes ∧ TextPointer.terminated bytes = Text.bytes s := by
  cases pointer with
  | none => exact ⟨nofun, nofun⟩
  | some bytes =>
    refine unless_eq_none_iff.trans ⟨fun read => ?_, fun ⟨_, s, same, spelt⟩ => ?_⟩
    · obtain ⟨s, spelt⟩ := Option.isSome_iff_exists.mp read
      exact ⟨bytes, s, rfl, (Text.ofBytes?_eq_some_iff _ _).mp spelt⟩
    · cases same
      exact Option.isSome_of_eq_some ((Text.ofBytes?_eq_some_iff _ _).mpr spelt)

theorem idFailure?_eq_none_iff (pointer : TextPointer) (name : String) :
    idFailure? pointer name = none ↔ ∃ bytes s id, pointer = some bytes ∧
      TextPointer.terminated bytes = Text.bytes s ∧ Uuid.parse s = .ok id := by
  cases pointer with
  | none => exact ⟨nofun, nofun⟩
  | some bytes =>
    unfold idFailure?
    dsimp only
    constructor
    · intro good
      split at good
      · cases good
      · rename_i s spelt
        split at good
        · rename_i id parsed
          exact ⟨bytes, s, id, rfl, (Text.ofBytes?_eq_some_iff _ _).mp spelt, parsed⟩
        · cases good
    · rintro ⟨_, s, id, same, spelt, parsed⟩
      cases same
      rw [(Text.ofBytes?_eq_some_iff _ _).mpr spelt]
      dsimp only
      rw [parsed]

theorem failure?_eq_none_iff (h : Host) (argument : Argument) : argument.failure? h = none ↔ argument.Valid h := by
  cases argument with
  | server pointer =>
    refine unless_eq_none_iff.trans ?_
    cases pointer with
    | null => exact ⟨nofun, nofun⟩
    | held => exact (and_iff_right rfl).symm
  | text pointer name => exact textFailure?_eq_none_iff pointer name
  | connectionId pointer | requestId pointer => exact idFailure?_eq_none_iff pointer _
  | data pointer length =>
    refine unless_eq_none_iff.trans ?_
    cases pointer <;> simp [Valid]
  | buffer pointer | event pointer =>
    refine unless_eq_none_iff.trans ?_
    cases pointer <;> simp [Valid]
  | payload record =>
    show (if record.any (fun r => r.payload.isNone && 0 < r.payloadCapacity) then
      some (Failure.nullPointer "event.payload") else none) = none ↔ _
    cases record <;> simp [Valid]
  | verb code =>
    refine unless_eq_none_iff.trans ?_
    rw [List.any_eq_true]
    constructor
    · rintro ⟨verb, -, same⟩
      exact ⟨verb, of_decide_eq_true same⟩
    · rintro ⟨verb, same⟩
      exact ⟨verb, Named.mem_all verb, decide_eq_true same⟩

theorem nullPointer_zeroFree {name : String} (free : ZeroFree name) : ZeroFree (Failure.nullPointer name).message :=
  (by decide : ZeroFree "Null pointer provided for: ").append free

theorem textFailure?_zeroFree {pointer : TextPointer} {name : String} {failure : Failure} (free : ZeroFree name)
    (bad : textFailure? pointer name = some failure) : ZeroFree failure.message := by
  unfold textFailure? at bad
  split at bad
  · cases bad
    exact nullPointer_zeroFree free
  · split at bad
    · cases bad
    · cases bad
      exact (by decide : ZeroFree "Invalid UTF-8 string: ").append free

theorem idFailure?_zeroFree {pointer : TextPointer} {name : String} {failure : Failure} (free : ZeroFree name)
    (bad : idFailure? pointer name = some failure) : ZeroFree failure.message := by
  unfold idFailure? at bad
  split at bad
  · cases bad
    exact nullPointer_zeroFree free
  · split at bad
    · cases bad
      exact (by decide : ZeroFree "Invalid UTF-8 string: ").append free
    · rename_i s spelt
      split at bad
      · cases bad
      · rename_i fault refused
        cases bad
        exact (by decide : ZeroFree "Invalid id: ").append (Uuid.parse_zeroFree refused (.ofBytes? spelt))

def Named : Argument → Prop
  | text _ name => ZeroFree name
  | _ => True

theorem failure?_zeroFree {h : Host} {argument : Argument} {failure : Failure} (named : argument.Named)
    (bad : argument.failure? h = some failure) : ZeroFree failure.message := by
  have null {p : Prop} [Decidable p] {name : String} (free : ZeroFree name)
      (bad : (if p then none else some (Failure.nullPointer name)) = some failure) : ZeroFree failure.message := by
    cases (Option.ite_none_left_eq_some.mp bad).2
    exact nullPointer_zeroFree free
  cases argument with
  | server | data | buffer | event => exact null (by decide) bad
  | text pointer name => exact textFailure?_zeroFree named bad
  | connectionId | requestId => exact idFailure?_zeroFree (by decide) bad
  | payload record =>
    cases (Option.ite_none_right_eq_some.mp bad).2
    exact nullPointer_zeroFree (by decide)
  | verb code =>
    cases (Option.ite_none_left_eq_some.mp bad).2
    exact (by decide : ZeroFree "Invalid argument: ").append
      ((by decide : ZeroFree "unknown verb discriminant ").append (.ofInt code))

end Argument

theorem HostCall.named_checks (call : HostCall) : ∀ check ∈ call.checks, check.argument.Named := by
  cases call with
  | addRoute | setStatus | setHeader =>
    simp only [checks, List.forall_mem_cons, List.not_mem_nil, false_implies, implies_true, Argument.Named]
    decide
  | copyField server id field buffer =>
    cases field with
    | header name =>
      simp only [checks, List.cons_append, List.nil_append, List.forall_mem_cons, List.not_mem_nil, false_implies,
        implies_true, Argument.Named]
      decide
    | _ => simp [checks, Argument.Named]
  | _ => simp [checks, bodyChecks, Argument.Named]

/-! Calls are refused by their first bad argument. -/

theorem firstFailure_eq_none {h : Host} {checks : List Check} (good : ∀ check ∈ checks, check.argument.Valid h) :
    firstFailure h checks = none := by
  refine List.findSome?_eq_none_iff.mpr fun check within => ?_
  rw [(Argument.failure?_eq_none_iff h check.argument).mpr (good check within)]
  rfl

theorem firstFailure_split {h : Host} {before after : List Check} {check : Check} {failure : Failure}
    (good : ∀ earlier ∈ before, earlier.argument.Valid h) (bad : check.argument.failure? h = some failure) :
    firstFailure h (before ++ check :: after) = some (failure, check.answer failure) := by
  have passed : firstFailure h before = none := firstFailure_eq_none good
  unfold firstFailure at *
  rw [List.findSome?_append, passed, List.findSome?_cons, bad]
  rfl

theorem first_fault {h : Host} {checks : List Check} (bad : ∃ check ∈ checks, ¬ check.argument.Valid h) :
    ∃ before check after failure, checks = before ++ check :: after ∧
      (∀ earlier ∈ before, earlier.argument.Valid h) ∧ check.argument.failure? h = some failure := by
  induction checks with
  | nil => exact absurd bad nofun
  | cons first checks ih =>
    cases fault : first.argument.failure? h with
    | some failure => exact ⟨[], first, checks, failure, rfl, List.forall_mem_nil _, fault⟩
    | none =>
      have good := (Argument.failure?_eq_none_iff h first.argument).mp fault
      obtain ⟨check, within, wrong⟩ := bad
      have later : check ∈ checks := (List.mem_cons.mp within).resolve_left fun same => wrong (same ▸ good)
      obtain ⟨before, check, after, failure, rfl, passed, found⟩ := ih ⟨check, later, wrong⟩
      exact ⟨first :: before, check, after, failure, rfl, List.forall_mem_cons.mpr ⟨good, passed⟩, found⟩

namespace HostCall

theorem failure?_eq_first {call : HostCall} (h : Host) (takes : call.takesServer = true) :
    call.failure? h = (firstFailure h call.checks).map (·.1) := by
  cases call with
  | create | createFromFile | initLogging => cases takes
  | _ => rfl

theorem failure?_zeroFree {h : Host} {call : HostCall} {failure : Failure} (takes : call.takesServer = true)
    (bad : call.failure? h = some failure) : ZeroFree failure.message := by
  rw [failure?_eq_first h takes] at bad
  obtain ⟨⟨_, answer⟩, found, rfl⟩ := Option.map_eq_some_iff.mp bad
  obtain ⟨check, within, fault⟩ := List.exists_of_findSome?_eq_some found
  obtain ⟨failure, reason, same⟩ := Option.map_eq_some_iff.mp fault
  cases same
  exact Argument.failure?_zeroFree (call.named_checks check within) reason

end HostCall

namespace Host

theorem initLogging_eq (h : Host) (level : TextPointer) (json : Bool) :
    h.initLogging level json =
      match h.logging level json with
      | .ok logger => (.ok, { h with logger })
      | .error failure => (failure.code, h.fail failure) := by
  cases level <;> rfl

theorem lastError_call (h : Host) (call : HostCall) :
    (h.call call).2.lastError = (call.failure? h).or h.lastError := by
  have checked (takes : call.takesServer = true) :
      (h.call call).2.lastError = ((firstFailure h call.checks).map (·.1)).or h.lastError := by
    have follows := h.follows_checks call takes
    unfold Follows at follows
    split at follows
    · rename_i first
      rw [first, follows]
      rfl
    · rename_i first
      rw [first, follows]
      rfl
  cases call with
  | create settings =>
    cases settings with
    | none => rfl
    | some settings =>
      show (h.hold ((settings.serverConfig.mapError .invalidConfig).map .create)).2.lastError =
        (failed? (settings.serverConfig.mapError .invalidConfig)).or h.lastError
      cases settings.serverConfig <;> rfl
  | createFromFile files env path read =>
    show (h.hold (read.map .create)).2.lastError = (failed? read).or h.lastError
    cases read <;> rfl
  | initLogging level json =>
    show (h.initLogging level json).2.lastError = (failed? (h.logging level json)).or h.lastError
    rw [initLogging_eq]
    cases h.logging level json <;> rfl
  | _ => exact checked rfl

theorem lastError_after (h : Host) (calls : List HostCall) :
    (h.after calls).lastError = (h.failures calls).getLast?.or h.lastError := by
  induction calls generalizing h with
  | nil => rfl
  | cons call calls ih =>
    show ((h.call call).2.after calls).lastError = _
    rw [ih, lastError_call, failures, List.getLast?_append, Option.or_assoc]
    cases call.failure? h <;> rfl

theorem failures_zeroFree {h : Host} {calls : List HostCall} (takes : ∀ call ∈ calls, call.takesServer = true) :
    ∀ failure ∈ h.failures calls, ZeroFree failure.message := by
  induction calls generalizing h with
  | nil => exact List.forall_mem_nil _
  | cons call calls ih =>
    obtain ⟨first, others⟩ := List.forall_mem_cons.mp takes
    intro failure within
    cases List.mem_append.mp within with
    | inl now => exact HostCall.failure?_zeroFree first (Option.mem_toList.mp now)
    | inr later => exact ih others failure later

/-- What a host may rely on. A call about a server with bad arguments is refused by the first of them in the order
    of its checks, and does nothing but to record that one. With good arguments it leaves the last error alone. So
    after any calls the last error is that of the last one that was refused, shown with its whole message. -/
theorem refused_by_first_fault (h : Host) :
    (∀ call : HostCall, call.takesServer = true →
      ((∃ check ∈ call.checks, ¬ check.argument.Valid h) →
        ∃ before check after failure, call.checks = before ++ check :: after ∧
          (∀ earlier ∈ before, earlier.argument.Valid h) ∧ check.argument.failure? h = some failure ∧
          call.failure? h = some failure ∧
          h.call call = (check.answer failure, { h with lastError := some failure }) ∧
          (h.call call).2.lastErrorText = some failure.message) ∧
      ((∀ check ∈ call.checks, check.argument.Valid h) →
        call.failure? h = none ∧ (h.call call).2.lastError = h.lastError)) ∧
    ∀ calls : List HostCall,
      (h.after calls).lastError = (h.failures calls).getLast?.or h.lastError ∧
      ((∀ call ∈ calls, call.takesServer = true) →
        (h.after calls).lastErrorText = ((h.failures calls).getLast?.map (·.message)).or h.lastErrorText) := by
  refine ⟨fun call takes => ⟨fun bad => ?_, fun good => ?_⟩, fun calls => ⟨h.lastError_after calls, fun takes => ?_⟩⟩
  · obtain ⟨before, check, after, failure, split, passed, fault⟩ := first_fault bad
    have first : firstFailure h call.checks = some (failure, check.answer failure) := by
      rw [split]
      exact firstFailure_split passed fault
    have reason : call.failure? h = some failure := by
      rw [HostCall.failure?_eq_first h takes, first]
      rfl
    have refused : h.call call = (check.answer failure, h.fail failure) := by
      have follows := h.follows_checks call takes
      unfold Follows at follows
      rw [first] at follows
      exact follows
    refine ⟨before, check, after, failure, split, passed, fault, reason, refused, ?_⟩
    rw [refused]
    exact congrArg some (HostCall.failure?_zeroFree takes reason).filter_toList
  · have none : call.failure? h = none := by
      rw [HostCall.failure?_eq_first h takes, firstFailure_eq_none good]
      rfl
    refine ⟨none, ?_⟩
    rw [lastError_call, none]
    rfl
  · unfold lastErrorText
    rw [lastError_after]
    cases last : (h.failures calls).getLast? with
    | none => rfl
    | some failure =>
      exact congrArg some (failures_zeroFree takes failure (List.mem_of_getLast? last)).filter_toList

/-- A header without a name and a value is refused for its name, and a stop after it leaves that as the last error. -/
theorem refused_by_first_fault_null_name :
    let h : Host := { start with server := some (.create {}) }
    let nameless : HostCall :=
      .setHeader .held (some (Text.bytes "67e55044-10b1-426f-9247-bb680e5fe0c8")) none none
    (∃ check ∈ nameless.checks, ¬ check.argument.Valid h) ∧
      (∃ check failure, check ∈ nameless.checks ∧ h.call nameless = (check.answer failure, h.fail failure) ∧
        (h.call nameless).2.lastErrorText = some failure.message) ∧
      (h.call (.stopListening .held)).2.lastError = h.lastError ∧
      (h.after [nameless, .stopListening .held]).lastErrorText = some "Null pointer provided for: name" := by
  intro h nameless
  have bad : ∃ check ∈ nameless.checks, ¬ check.argument.Valid h :=
    ⟨⟨.text none "name", fun _ => .request .invalidValue⟩, .tail _ (.tail _ (.head _)), nofun⟩
  refine ⟨bad, ?_, ?_, ?_⟩
  · obtain ⟨before, check, after, failure, split, -, -, -, refused, shown⟩ :=
      ((refused_by_first_fault h).1 nameless rfl).1 bad
    exact ⟨check, failure, split ▸ List.mem_append_right before List.mem_cons_self, refused, shown⟩
  · refine (((refused_by_first_fault h).1 (.stopListening .held) rfl).2 ?_).2
    exact List.forall_mem_cons.mpr ⟨⟨rfl, rfl⟩, List.forall_mem_nil _⟩
  · have failed : h.failures [nameless, .stopListening .held] = [.nullPointer "name"] := by decide
    rw [((refused_by_first_fault h).2 [nameless, .stopListening .held]).2 (by decide), failed]
    decide

end Host

end Gateway.Abi
