import Gateway.Proofs.Request.Legible
import Gateway.Proofs.Server.Stop
import Gateway.Proofs.Service.Work

namespace Gateway

open Http (Headers Method RequestHead Uri)
open WebSocket (Closure)

/-- A request that arrives has a head that was read from its parts. -/
def RequestMove.Readable : RequestMove → Prop
  | arrive method uri headers => ∃ word target raw, RequestHead.read? word target raw = some ⟨method, uri, headers⟩
  | _ => True

namespace RequestRegistry

theorem mem_records_finish {r : RequestRegistry} {id : RequestId} {data : Bytes} {x : RequestRecord}
    (listed : x ∈ (r.finish id data).2.records) : x ∈ r.records := by
  unfold finish at listed
  split at listed
  · exact listed
  · exact (List.mem_filter.mp listed).1

theorem mem_records_tryEnd {r : RequestRegistry} {id : RequestId} {data : Bytes} {totalSize : Nat} {x : RequestRecord}
    (listed : x ∈ (r.tryEnd id data totalSize).2.records) : x ∈ r.records := by
  unfold tryEnd at listed
  split at listed
  · exact listed
  · split at listed
    · exact listed
    · split at listed
      · exact mem_records_finish listed
      · rwa [records_write] at listed

theorem mem_records_abort {r : RequestRegistry} {id : RequestId} {x : RequestRecord}
    (listed : x ∈ (r.abort id).2.records) : x ∈ r.records := by
  unfold abort at listed
  split at listed
  · exact listed
  · exact (List.mem_filter.mp listed).1

theorem mem_records_takeIn {r : RequestRegistry} {record x : RequestRecord} (listed : x ∈ (r.takeIn record).records) :
    x = { record with response := r.responses.length } ∨ x ∈ r.records := by
  cases used : r.has record.id with
  | true =>
    rw [takeIn_taken record used] at listed
    exact .inr listed
  | false =>
    rw [takeIn_free record used] at listed
    exact (List.mem_append.mp listed).symm.imp_left List.mem_singleton.mp

end RequestRegistry

namespace Engine

structure Retains (e f : Engine) : Prop where
  routes : f.routes = e.routes
  requests : ∀ record ∈ f.requests.records, record ∈ e.requests.records

namespace Retains

variable {e f g : Engine}

theorem of_records (routes : f.routes = e.routes) (records : f.requests.records = e.requests.records) : e.Retains f :=
  ⟨routes, fun _ listed => records ▸ listed⟩

theorem refl (e : Engine) : e.Retains e := .of_records rfl rfl

theorem trans (first : e.Retains f) (second : f.Retains g) : e.Retains g :=
  ⟨second.routes.trans first.routes, fun record listed => first.requests record (second.requests record listed)⟩

end Retains

theorem retains_openSession (e : Engine) (id : ConnectionId) : e.Retains (e.openSession id).2 := by
  have routes : (e.openSession id).2.routes = e.routes := by
    rw [openSession_eq]
    dsimp only
    split <;> rfl
  exact .of_records routes (congrArg (·.records) (e.requests_openSession id))

theorem retains_applyStep (e : Engine) (id : ConnectionId) (line : Nat) (step : SessionStep) :
    e.Retains (e.applyStep id line step) := by
  have routes : (e.applyStep id line step).routes = e.routes := by
    unfold applyStep
    cases step.message <;> rfl
  exact .of_records routes (congrArg (·.records) (e.requests_applyStep id line step))

theorem retains_closeSession (e : Engine) (id : ConnectionId) (line : Nat) (session : Session) :
    e.Retains (e.closeSession id line session) := by
  have routes : (e.closeSession id line session).routes = e.routes := by
    unfold closeSession
    dsimp only
    split <;> rfl
  exact .of_records routes (congrArg (·.records) (e.requests_closeSession id line session))

theorem retains_noticed (e : Engine) (line : Nat) (event : SessionEvent) : e.Retains (e.noticed line event) := by
  cases event <;> exact .of_records rfl rfl

theorem retains_closeConnections (e : Engine) (closure : Closure) : e.Retains (e.closeConnections closure).2 := by
  have told (ids : List ConnectionId) (e : Engine) :
      (ids.foldl (fun e id => e.emit .closed id.text closure.payload) e).routes = e.routes := by
    induction ids generalizing e with
    | nil => rfl
    | cons id rest ih => exact ih _
  exact .of_records (told _ _) (congrArg (·.records) (e.requests_closeConnections closure))

theorem retains_receiveBody (e : Engine) (id : RequestId) (data : Bytes) : e.Retains (e.receiveBody id data) := by
  unfold receiveBody
  split <;> exact .of_records rfl rfl

theorem retains_receiveBodyEnd (e : Engine) (id : RequestId) : e.Retains (e.receiveBodyEnd id) := by
  unfold receiveBodyEnd
  split <;> exact .of_records rfl rfl

theorem retains_abandonRequest (e : Engine) (id : RequestId) : e.Retains (e.abandonRequest id) := by
  have routes : (e.abandonRequest id).routes = e.routes := by
    unfold abandonRequest
    dsimp only
    split <;> rfl
  refine ⟨routes, ?_⟩
  rw [requests_abandonRequest]
  exact fun _ => RequestRegistry.mem_records_abort

theorem retains_pollHead (e : Engine) (n : Nat) : e.Retains (e.pollHead n).2 :=
  .of_records rfl (e.requests.records_pollHead n)

theorem retains_pollBody (e : Engine) (id : RequestId) (n : Nat) : e.Retains (e.pollBody id n).2 := by
  have routes : (e.pollBody id n).2.routes = e.routes := by
    unfold pollBody
    dsimp only
    split <;> rfl
  exact .of_records routes (by rw [requests_pollBody, RequestRegistry.records_pollBody])

theorem retains_dropBody (e : Engine) (n : Nat) : e.Retains (e.dropBody n) := .of_records rfl rfl

/-- The patterns of the routes and the parts of the requests have no zero byte. -/
structure Legible (e : Engine) : Prop where
  routes : ∀ route ∈ e.routes.routes, ZeroFree route.2.text
  requests : ∀ record ∈ e.requests.records, record.Legible

variable {e f : Engine}

theorem legible_start (config : ServerConfig) : (start config).Legible :=
  ⟨List.forall_mem_nil _, List.forall_mem_nil _⟩

theorem Legible.retains (legible : e.Legible) (retains : e.Retains f) : f.Legible :=
  ⟨retains.routes ▸ legible.routes, fun record listed => legible.requests record (retains.requests record listed)⟩

theorem Legible.addRoute (legible : e.Legible) (verb : Verb) {pattern : String} (free : ZeroFree pattern) :
    (e.addRoute verb pattern).Legible := by
  refine ⟨?_, legible.requests⟩
  show ∀ route ∈ e.routes.routes ++ [(verb, RoutePattern.read pattern)], _
  rw [List.forall_mem_append, List.forall_mem_singleton]
  exact ⟨legible.routes, free⟩

theorem Legible.find? (legible : e.Legible) {method : Method} {path : String} {websocket : Bool} {found : RouteMatch}
    (route : e.routes.find? method path websocket = some found) : ZeroFree found.pattern := by
  obtain ⟨⟨verb, pattern⟩, listed, answers⟩ := List.exists_of_findSome?_eq_some route
  dsimp only at answers
  split at answers
  · split at answers
    · cases answers
      exact legible.routes _ listed
    · cases answers
  · cases answers

theorem Legible.dispatch (legible : e.Legible) {head : RequestHead} {word target : String} {raw : List (String × Bytes)}
    (read : RequestHead.read? word target raw = some head) (id : RequestId) {route : String} (free : ZeroFree route) :
    (e.dispatch id head.method head.uri head.headers route).2.Legible := by
  let record := RequestRecord.ofHead id head.method head.uri head.headers route e.requests.openResponse.1
  have taken : (e.dispatch id head.method head.uri head.headers route).2.requests = e.requests.takeIn record ∧
      (e.dispatch id head.method head.uri head.headers route).2.routes = e.routes := by
    unfold Engine.dispatch
    dsimp only
    split <;> exact ⟨rfl, rfl⟩
  refine ⟨taken.2 ▸ legible.routes, ?_⟩
  rw [taken.1]
  intro x listed
  rcases RequestRegistry.mem_records_takeIn listed with rfl | old
  · exact RequestRecord.legible_ofHead read free id _
  · exact legible.requests x old

theorem Legible.handleRequest (legible : e.Legible) {head : RequestHead} {word target : String}
    {raw : List (String × Bytes)} (read : RequestHead.read? word target raw = some head) (id : RequestId) :
    (e.handleRequest id head.method head.uri head.headers).2.Legible := by
  unfold Engine.handleRequest
  dsimp only
  split
  · exact legible
  · rename_i found route
    split
    · refine legible.retains (.of_records ?_ (congrArg (·.records) (e.upgrade_quiet head.headers).2.2.2))
      unfold upgrade
      split
      · rfl
      · split <;> rfl
    · exact legible.dispatch read id (legible.find? route)

end Engine

namespace Service

variable {v : Service}

theorem retains_complete (v : Service) (id : Uuid) (line : Nat) (step : SessionStep) :
    v.engine.Retains (v.complete id line step).engine := by
  have applied := v.engine.retains_applyStep ⟨id⟩ line step
  unfold complete
  dsimp only
  split
  · exact applied.trans (Engine.retains_closeSession _ ⟨id⟩ line step.session)
  · exact applied

theorem retains_moveSession (v : Service) (id : Uuid) (move : SessionMove) :
    v.engine.Retains (v.moveSession id move).engine := by
  have moved := v.moved id move
  generalize v.moveSession id move = w, v.sessionTurn? id move = turn? at *
  cases moved with
  | nothing => exact .refl _
  | starts => exact v.engine.retains_openSession ⟨id⟩
  | waits => exact v.engine.retains_noticed _ _
  | completes => exact v.retains_complete _ _ _
  | fails => exact .of_records rfl rfl

theorem legible_moveRequest (legible : v.engine.Legible) (id : Uuid) {move : RequestMove} (readable : move.Readable) :
    (v.moveRequest id move).engine.Legible := by
  have moved := v.requestMoved id move
  generalize v.requestEffect id move = effect, v.moveRequest id move = w at *
  cases moved with
  | nothing | bodyLost => exact legible
  | begins | answered =>
    obtain ⟨word, target, raw, read⟩ := readable
    exact legible.handleRequest read ⟨id⟩
  | bodyPart => exact legible.retains (v.engine.retains_receiveBody _ _)
  | bodyEnd => exact legible.retains (v.engine.retains_receiveBodyEnd _)
  | pollHead => exact legible.retains (v.engine.retains_pollHead _)
  | drains | pollBody => exact legible.retains (v.engine.retains_pollBody _ _)
  | hangUp => exact legible.retains (v.engine.retains_dropBody _)
  | letGo => exact legible.retains ((v.engine.retains_dropBody _).trans (Engine.retains_abandonRequest _ ⟨id⟩))

end Service

namespace Server

variable {s : Server}

theorem retains_startListening (s : Server) (requested : Nat) (bound : Except String Nat) :
    s.engine.Retains (s.startListening requested bound).2.engine := by
  by_cases idle : s.state = .idle
  · cases bound with
    | ok port =>
      rw [startListening_bound idle]
      exact .of_records rfl rfl
    | error fault =>
      rw [startListening_failed idle]
      exact .of_records rfl rfl
  · rw [startListening_busy idle]
    exact .refl _

theorem retains_stopListening (s : Server) : s.engine.Retains s.stopListening.2.engine := by
  unfold stopListening
  split
  · exact .refl _
  · split
    · exact .refl _
    · have closed := s.engine.retains_closeConnections stopping
      refine closed.trans ⟨rfl, fun record listed => ?_⟩
      have none := (s.engine.closeConnections stopping).2.requests.records_abortAll .serviceUnavailable
      exact absurd (none ▸ listed) List.not_mem_nil

theorem retains_sendText (s : Server) (id : ConnectionId) (data : Bytes) :
    s.engine.Retains (s.sendText id data).2.engine := by
  unfold sendText
  split <;> exact .of_records rfl rfl

theorem retains_broadcastText (s : Server) (data : Bytes) : s.engine.Retains (s.broadcastText data).2.engine := by
  unfold broadcastText
  split <;> exact .of_records rfl rfl

end Server

end Gateway
