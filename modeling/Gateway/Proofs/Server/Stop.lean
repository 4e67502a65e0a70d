import Gateway.Proofs.Connection.LifeCycle
import Gateway.Proofs.Engine
import Gateway.Proofs.Request.InFlight
import Gateway.Server

namespace Gateway

open Http (StatusCode)

namespace Response

variable {x y : Response}

structure GivenUp (x y : Response) (status : StatusCode) : Prop where
  bare : x.headSent = false → y.head = .ready ⟨status, []⟩ ∧ y.chunks = []
  cut : x.headSent = true → y.head = x.head ∧ y.chunks = x.chunks
  closed : y.isOpen = false

theorem Early.givenUp (early : x.Early) (status : StatusCode) : x.GivenUp (x.abortWith status) status := by
  have chunks : (x.abortWith status).chunks = x.chunks := by
    unfold abortWith
    split <;> rfl
  refine ⟨fun pending => ⟨?_, chunks.trans (early pending)⟩, fun out => ⟨?_, chunks⟩, x.isOpen_abortWith status⟩
  · unfold headSent at pending
    unfold abortWith
    split <;> simp_all
  · unfold headSent at out
    unfold abortWith
    split <;> simp_all

end Response

namespace RequestRegistry

theorem answer_polls {r : RequestRegistry} {n : Nat} {y : Response} (found : r.response? n = some y)
    (closed : y.isOpen = false) (id : RequestId) :
    (r.answer id n (.replicate (y.chunks.length + 1) .pollBody)).1.map (·.2) =
      y.chunks.map (fun chunk => .body (.data chunk)) ++ [.body .done] := by
  have poll : (r.pollBody n).1 = y.pollBody.1 := (Ledger.pollBody_found found).1
  induction parts : y.chunks generalizing r y with
  | nil =>
    rw [Response.pollBody_nil parts, closed] at poll
    exact congrArg (fun reply => [Reply.body reply]) poll
  | cons chunk rest ih =>
    have next : (r.pollBody n).2.2.response? n = some y.pollBody.2.2 := by
      rw [(Ledger.pollBody_found found).2, response?_modifyResponse, found]
      rfl
    have others := ih next ((Response.isOpen_pollBody y).trans closed) (Ledger.pollBody_found next).1
      ((Response.chunks_pollBody y).trans (congrArg List.tail parts))
    rw [Response.pollBody_cons parts] at poll
    rw [List.length_cons, List.replicate_succ, List.map_cons, List.cons_append, ← others, ← poll]
    rfl

end RequestRegistry

namespace Server

variable {s : Server}

theorem startListening_busy (busy : s.state ≠ .idle) (requested : Nat) (bound : Except String Nat) :
    s.startListening requested bound = (false, s) := if_pos busy

def bindMessage (s : Server) (requested : Nat) (fault : String) : Bytes :=
  Text.bytes (ServerError.bind (s.config.host ++ ":" ++ Text.Decimal.text requested) fault).message

theorem startListening_failed (idle : s.state = .idle) (requested : Nat) (fault : String) :
    s.startListening requested (.error fault) =
      (false, { s with engine := s.engine.emitServer .error (s.bindMessage requested fault) }) :=
  if_neg (not_not_intro idle)

theorem startListening_bound (idle : s.state = .idle) (requested port : Nat) :
    s.startListening requested (.ok port) =
      (true, { engine := s.engine.reopen.emitServer .listening (Text.bytes (Text.Decimal.text port))
               state := .listening, port := some port }) :=
  if_neg (not_not_intro idle)

theorem startListening_answer (s : Server) (requested : Nat) (bound : Except String Nat) :
    (s.startListening requested bound).1 = true ↔ s.state = .idle ∧ ∃ port, bound = .ok port := by
  by_cases idle : s.state = .idle
  · cases bound with
    | error fault => simp [startListening_failed idle]
    | ok port => simp [startListening_bound idle, idle]
  · simp [startListening_busy idle, idle]

theorem stopListening_idle (idle : s.state ≠ .listening) : s.stopListening = (false, s) := if_pos idle

theorem stopListening_running (listening : s.state = .listening) (port : s.port.isSome = true) :
    s.stopListening = (true, {
      engine := ((s.engine.closeConnections stopping).2.withRequests (·.abortAll .serviceUnavailable)).2.emitServer
        .shutDown []
      state := .idle, port := none }) := by
  obtain ⟨_, same⟩ := Option.isSome_iff_exists.mp port
  unfold stopListening
  rw [if_neg (not_not_intro listening), same]

theorem connections_stopListening (listening : s.state = .listening) (port : s.port.isSome = true) :
    s.stopListening.2.engine.connections = (s.engine.connections.shutDown stopping).2 := by
  rw [stopListening_running listening port]
  exact s.engine.connections_closeConnections stopping

theorem requests_stopListening (listening : s.state = .listening) (port : s.port.isSome = true) :
    s.stopListening.2.engine.requests = (s.engine.requests.abortAll .serviceUnavailable).2 := by
  rw [stopListening_running listening port]
  exact congrArg (fun r => (r.abortAll .serviceUnavailable).2) (s.engine.requests_closeConnections stopping)

theorem queue_stopListening (listening : s.state = .listening) (port : s.port.isSome = true) :
    s.stopListening.2.engine.queue = s.engine.queue.extend
      (((s.engine.connections.shutDown stopping).1.map fun id => s.engine.cut .closed id.text stopping.payload) ++
        [s.engine.cut .shutDown serverId []]) := by
  rw [stopListening_running listening port]
  have closed := s.engine.queue_closeConnections stopping
  have limit : (s.engine.closeConnections stopping).2.queue.maxPayload = s.engine.queue.maxPayload := by
    rw [closed, EventQueue.maxPayload_extend]
  have last := Engine.cut_congr limit .shutDown serverId []
  show (s.engine.closeConnections stopping).2.queue.extend
    [(s.engine.closeConnections stopping).2.cut .shutDown serverId []] = _
  rw [last, closed, EventQueue.extend_extend]

structure Halts (s t : Server) : Prop where
  /-- The events: the end of each client that was live, and that of the server. -/
  told : ∃ ids : List ConnectionId, ids.Nodup ∧ (∀ id, id ∈ ids ↔ s.engine.connections.isLive id = true) ∧
    t.engine.queue = s.engine.queue.extend
      ((ids.map fun id => s.engine.cut .closed id.text (WebSocket.Closure.payload ⟨1001, "server shutting down"⟩)) ++
        [s.engine.cut .shutDown serverId []])
  idle : t.state = .idle ∧ t.port = none
  clients : t.clientCount = 0
  requests : t.engine.requests.records = []
  /-- Each request in flight: its response as it was, and what the connection gets of it from now on. -/
  answers : ∀ record ∈ s.engine.requests.records, ∃ x y,
    s.engine.requests.response? record.response = some x ∧ t.engine.requests.response? record.response = some y ∧
    x.GivenUp y .serviceUnavailable ∧
    (t.engine.requests.answer record.id record.response (.replicate (y.chunks.length + 1) .pollBody)).1.map (·.2) =
      y.chunks.map (fun chunk => .body (.data chunk)) ++ [.body .done]

theorem halts_stopListening (listening : s.state = .listening) (port : s.port.isSome = true)
    (distinct : s.engine.connections.Distinct) (sound : s.engine.requests.Sound) : s.Halts s.stopListening.2 := by
  have connections := connections_stopListening listening port
  have requests := requests_stopListening listening port
  refine ⟨⟨_, distinct.nodup_shutDown stopping, ConnectionRegistry.mem_shutDown distinct stopping,
    queue_stopListening listening port⟩, ?_, ?_, ?_, ?_⟩
  · rw [stopListening_running listening port]
    exact ⟨rfl, rfl⟩
  · have none := (s.engine.connections.shut_shutDown stopping).live_eq (distinct.shutDown stopping)
    rw [clientCount, connections]
    exact congrArg List.length none
  · rw [requests]
    exact s.engine.requests.records_abortAll _
  · intro record listed
    obtain ⟨x, found, _⟩ := sound.opened record listed
    have known : s.engine.requests.records.any (·.response == record.response) = true :=
      List.any_eq_true.mpr ⟨record, listed, beq_self_eq_true _⟩
    have after : s.stopListening.2.engine.requests.response? record.response =
        some (x.abortWith .serviceUnavailable) := by
      rw [requests, RequestRegistry.response?_abortAll, found, Option.map_some, if_pos known]
    exact ⟨x, _, found, after, (sound.early _ x found).givenUp _,
      RequestRegistry.answer_polls after (x.isOpen_abortWith _) _⟩

end Server

end Gateway
